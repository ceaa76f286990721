import LittleBaby.ExecWrappers

/-!
# Invocations of dispatch wrappers

The synopsis of a wrapper lists its options and says which of them have a value.
An invocation is the name of a wrapper, options, an operand of the wrapper itself
where it has one, and the command that it runs.
-/

namespace LittleBaby.Exec

open JsString

variable (host : Host)

/-- What stands between the options and the command. -/
inductive WrapperOperand where
  | nothing
  | duration
  | transcript
  deriving DecidableEq

structure WrapperSynopsis where
  name : String
  separators : List String := ["--"]
  flags : List String := []
  valued : List String := []
  /-- An adjustment may be written as an option, `-5` or `-n5`. -/
  numbered : Bool := false
  /-- Options are told apart by case. -/
  cased : Bool := false
  operand : WrapperOperand := .nothing
  deriving DecidableEq

def archSynopsis : WrapperSynopsis :=
  { name := "arch", separators := [], valued := ["-arch"]
    flags := ["-32", "-64", "-arm64", "-arm64e", "-i386", "-x86_64", "-x86_64h"] }

def caffeinateSynopsis : WrapperSynopsis :=
  { name := "caffeinate", flags := ["-d", "-i", "-m", "-s", "-u"], valued := ["-t", "-w"] }

/-- All options of `env` change what the command finds, so there are none here. -/
def envSynopsis : WrapperSynopsis := { name := "env" }

def niceSynopsis : WrapperSynopsis :=
  { name := "nice", valued := ["-n", "--adjustment", "--priority"], numbered := true }

def nohupSynopsis : WrapperSynopsis :=
  { name := "nohup", flags := ["--help", "--version"] }

def sandboxExecSynopsis : WrapperSynopsis :=
  { name := "sandbox-exec", valued := ["-f", "-p", "-d"] }

def scriptSynopsis : WrapperSynopsis :=
  { name := "script", flags := ["-a", "-d", "-k", "-p", "-q", "-r"], valued := ["-F", "-t"]
    cased := true, operand := .transcript }

def stdbufSynopsis : WrapperSynopsis :=
  { name := "stdbuf", valued := ["-i", "--input", "-o", "--output", "-e", "--error"] }

def timeSynopsis : WrapperSynopsis :=
  { name := "time"
    flags := ["-a", "--append", "-h", "--help", "-l", "-p", "-q", "--quiet", "-v",
      "--verbose", "-V", "--version"]
    valued := ["-f", "--format", "-o", "--output"] }

def timeoutSynopsis : WrapperSynopsis :=
  { name := "timeout", flags := ["--foreground", "--preserve-status", "-v", "--verbose"]
    valued := ["-k", "--kill-after", "-s", "--signal"], operand := .duration }

def xcrunSynopsis : WrapperSynopsis :=
  { name := "xcrun", separators := []
    flags := ["-k", "--kill-cache", "-l", "--log", "-n", "--no-cache", "-r", "--run", "-v",
      "--verbose"] }

def wrapperSynopses : List WrapperSynopsis :=
  [archSynopsis, caffeinateSynopsis, envSynopsis, niceSynopsis, nohupSynopsis,
    sandboxExecSynopsis, scriptSynopsis, stdbufSynopsis, timeSynopsis, timeoutSynopsis,
    xcrunSynopsis]

section Reading

variable (synopsis : WrapperSynopsis)

variable (token : JsString)

def spelled : JsString :=
  if synopsis.cased then token else host.normalizeLowercaseStringOrEmpty token

def isAdjustment (text : JsString) : Bool :=
  (text.head? = some 0x2D && isDigits text.tail) || ((js "-n").isPrefixOf text && 2 < text.length)

def IsFlag : Prop :=
  isAnyOf (optionFlag (spelled host synopsis token)) synopsis.flags = true ∨
    (isAnyOf (optionFlag (spelled host synopsis token)) synopsis.valued = true ∧
      0x3D ∈ spelled host synopsis token) ∨
    (synopsis.numbered = true ∧ isAdjustment (spelled host synopsis token) = true)

def HasNextValue : Prop := isAnyOf (spelled host synopsis token) synopsis.valued = true

/-- The arguments from the first one on that is no option of the wrapper; the flag says
that a value is due.  Blank arguments do not count. -/
inductive ReadsOptions : Bool → Argv → Argv → Prop
  | ended : ReadsOptions false [] []
  | command {arg : JsString} {rest : Argv} (hfilled : trim arg ≠ [])
      (hoperand : isDashOption (trim arg) = false ∨
        isDashOption (host.normalizeLowercaseStringOrEmpty (trim arg)) = false) :
      ReadsOptions false (arg :: rest) (arg :: rest)
  | separator {arg : JsString} {rest : Argv}
      (hseparator : isAnyOf (trim arg) synopsis.separators = true) :
      ReadsOptions false (arg :: rest) rest
  | blank {due : Bool} {arg : JsString} {rest command : Argv} (hblank : trim arg = [])
      (hrest : ReadsOptions due rest command) : ReadsOptions due (arg :: rest) command
  | flag {arg : JsString} {rest command : Argv} (hflag : IsFlag host synopsis (trim arg))
      (hrest : ReadsOptions false rest command) : ReadsOptions false (arg :: rest) command
  | valued {arg : JsString} {rest command : Argv} (hvalued : HasNextValue host synopsis (trim arg))
      (hrest : ReadsOptions true rest command) : ReadsOptions false (arg :: rest) command
  | value {arg : JsString} {rest command : Argv} (hfilled : trim arg ≠ [])
      (hrest : ReadsOptions false rest command) : ReadsOptions true (arg :: rest) command

end Reading

def WrapperOperand.Precedes (rest command : Argv) : WrapperOperand → Prop
  | .nothing => rest = command
  | .duration => ∃ duration, rest = duration :: command
  | .transcript => ∃ before transcript after,
      rest = before ++ transcript :: (after ++ command) ∧ trim transcript ≠ [] ∧
        ∀ blank ∈ before ++ after, trim blank = []

def CalledAs (name : JsString) (argv : Argv) : Prop :=
  ∃ token, firstToken argv = some token ∧ normalizeExecutableToken host token = name

structure Invokes (wrapper : JsString) (argv command : Argv) : Prop where
  named : CalledAs host wrapper argv
  reads : ∃ synopsis ∈ wrapperSynopses, js synopsis.name = wrapper ∧
    ∃ rest, ReadsOptions host synopsis false argv.tail rest ∧ synopsis.operand.Precedes rest command
  runs : command ≠ []

variable {host}

variable {synopsis : WrapperSynopsis} {due : Bool} {args rest : Argv}

theorem ReadsOptions.isSuffix (hreads : ReadsOptions host synopsis due args rest) :
    rest <:+ args := by
  induction hreads with
  | ended | command =>
    exact List.suffix_rfl
  | separator => exact List.suffix_cons _ _
  | blank _ _ ih | flag _ _ ih | valued _ _ ih | value _ _ ih =>
    exact ih.trans (List.suffix_cons _ _)

theorem WrapperOperand.Precedes.isSuffix {operand : WrapperOperand} {command : Argv}
    (hprecedes : operand.Precedes rest command) : command <:+ rest := by
  cases operand with
  | nothing =>
    have heq : rest = command := hprecedes
    rw [heq]
  | duration =>
    obtain ⟨duration, rfl⟩ := hprecedes
    exact List.suffix_cons _ _
  | transcript =>
    obtain ⟨before, transcript, after, rfl, -⟩ := hprecedes
    exact ⟨before ++ transcript :: after, by simp⟩

variable {argv : Argv}

theorem firstToken_eq_some {token : JsString} (hfirst : firstToken argv = some token) :
    ∃ head args, argv = head :: args ∧ nonBlank head = some token := by
  cases argv with
  | nil => cases hfirst
  | cons head args => exact ⟨head, args, rfl, hfirst⟩

theorem CalledAs.unique {first second : JsString}
    (hfirst : CalledAs host first argv) (hsecond : CalledAs host second argv) :
    first = second := by
  obtain ⟨token, htoken, rfl⟩ := hfirst
  obtain ⟨other, hother, rfl⟩ := hsecond
  rw [htoken] at hother
  rw [Option.some.inj hother]

theorem Invokes.isSuffix {wrapper : JsString} {command : Argv}
    (hinvokes : Invokes host wrapper argv command) :
    ∃ head stripped, argv = head :: (stripped ++ command) := by
  obtain ⟨token, hfirst, -⟩ := hinvokes.named
  obtain ⟨head, args, rfl, -⟩ := firstToken_eq_some hfirst
  obtain ⟨synopsis, -, -, rest, hreads, hprecedes⟩ := hinvokes.reads
  obtain ⟨stripped, hstripped⟩ := hprecedes.isSuffix.trans hreads.isSuffix
  exact ⟨head, stripped, by rw [hstripped]; rfl⟩

def Follows (host : Host) (synopsis : WrapperSynopsis) (token : JsString) :
    WrapperScanDirective → Prop
  | .continue_ => IsFlag host synopsis token
  | .consumeNext => HasNextValue host synopsis token
  | .stop => isDashOption token = false ∨
      isDashOption (host.normalizeLowercaseStringOrEmpty token) = false
  | .invalid => True

def Agrees (host : Host) (synopsis : WrapperSynopsis)
    (onToken : JsString → JsString → WrapperScanDirective) : Prop :=
  ∀ token, Follows host synopsis token (onToken token (host.normalizeLowercaseStringOrEmpty token))

theorem Agrees.readsOptions {onToken : JsString → JsString → WrapperScanDirective}
    (hagrees : Agrees host synopsis onToken)
    (hscan : scanWrapperTokens host synopsis.separators
      (fun (_ : Unit) token lower => (onToken token lower, ())) () due args = some rest) :
    ReadsOptions host synopsis due args rest := by
  induction args generalizing due with
  | nil =>
    cases due with
    | true => cases hscan
    | false =>
      rw [← Option.some.inj hscan]
      exact .ended
  | cons arg later ih =>
    simp only [scanWrapperTokens] at hscan
    split_ifs at hscan with hblank hdue hseparator
    · exact .blank hblank (ih hscan)
    · rw [hdue]
      exact .value hblank (ih hscan)
    · rw [← Option.some.inj hscan, Bool.eq_false_iff.mpr hdue]
      exact .separator hseparator
    · rw [Bool.eq_false_iff.mpr hdue]
      have htoken := hagrees (trim arg)
      cases hdirective : onToken (trim arg) (host.normalizeLowercaseStringOrEmpty (trim arg)) with
      | continue_ =>
        simp only [hdirective, Follows] at htoken hscan
        exact .flag htoken (ih hscan)
      | consumeNext =>
        simp only [hdirective, Follows] at htoken hscan
        exact .valued htoken (ih hscan)
      | stop =>
        simp only [hdirective, Follows] at htoken hscan
        rw [← Option.some.inj hscan]
        exact .command hblank htoken
      | invalid =>
        simp only [hdirective] at hscan
        cases hscan

theorem optionFlag_eq_self {text : JsString} (hplain : text.contains 0x3D = false) :
    optionFlag text = text := by
  unfold optionFlag
  rw [List.takeWhile_eq_self_iff]
  intro unit hunit
  have hne : unit ≠ 0x3D := by
    rintro rfl
    rw [List.contains_iff_mem.mpr hunit] at hplain
    cases hplain
  simpa using hne

section

variable {synopsis : WrapperSynopsis} {token lower : JsString} (hspelled : spelled host synopsis
  token = lower)

include hspelled

theorem follows_flag (hflag : isAnyOf (optionFlag lower) synopsis.flags = true) :
    Follows host synopsis token .continue_ := by
  rw [← hspelled] at hflag
  exact .inl hflag

theorem follows_whole (hplain : ∀ flag ∈ synopsis.flags, 0x3D ∉ js flag)
    (hflag : isAnyOf lower synopsis.flags = true) :
    Follows host synopsis token .continue_ := by
  apply follows_flag hspelled
  obtain ⟨flag, hmem, heq⟩ := List.any_eq_true.mp hflag
  have hlower : optionFlag lower = lower := by
    apply optionFlag_eq_self
    rw [← beq_iff_eq.mp heq, Bool.eq_false_iff]
    intro hequals
    exact hplain flag hmem (List.contains_iff_mem.mp hequals)
  rw [hlower]
  exact hflag

theorem follows_valued (hvalued : isAnyOf (optionFlag lower) synopsis.valued = true) {inline : Bool}
    (hinline : inline = lower.contains 0x3D) :
    Follows host synopsis token (valueDirective inline) := by
  subst hinline
  cases hequals : lower.contains 0x3D with
  | true =>
    have hmem : 0x3D ∈ spelled host synopsis token := by
      rw [hspelled]
      exact List.contains_iff_mem.mp hequals
    rw [← hspelled] at hvalued
    exact .inr (.inl ⟨hvalued, hmem⟩)
  | false =>
    have hnext : isAnyOf (spelled host synopsis token) synopsis.valued = true := by
      rw [hspelled, ← optionFlag_eq_self hequals]
      exact hvalued
    exact hnext

end

theorem inline_iff {lower : JsString} :
    (lower.contains 0x3D || decide (lower ≠ optionFlag lower)) = lower.contains 0x3D := by
  cases hequals : lower.contains 0x3D with
  | true => rfl
  | false => simp [optionFlag_eq_self hequals]

theorem inline_iff_flipped {lower : JsString} :
    (decide (lower ≠ optionFlag lower) || lower.contains 0x3D) = lower.contains 0x3D := by
  rw [Bool.or_comm, inline_iff]

theorem follows_stop {token : JsString}
    (hdash : (!isDashOption token) = true) : Follows host synopsis token .stop := by
  left
  simpa using hdash

section Wrappers

variable {argv command : Argv}

theorem invokes_of_scan (synopsis : WrapperSynopsis) (hmem : synopsis ∈ wrapperSynopses)
    (hcall : CalledAs host (js synopsis.name) argv)
    {onToken : JsString → JsString → WrapperScanDirective}
    (hagrees : Agrees host synopsis onToken) {adjust : Argv → Option Argv}
    (hoperand : ∀ rest, adjust rest = some command → command ≠ [] →
      synopsis.operand.Precedes rest command)
    (hscan : scanWrapperInvocation host synopsis.separators onToken adjust argv =
      some command) : Invokes host (js synopsis.name) argv command := by
  obtain ⟨hbind, hruns⟩ := Option.filter_eq_some_iff.mp hscan
  obtain ⟨rest, hrest, hadjust⟩ := Option.bind_eq_some_iff.mp hbind
  have hne : command ≠ [] := by simpa using hruns
  exact ⟨hcall, ⟨synopsis, hmem, rfl, rest, hagrees.readsOptions hrest,
    hoperand rest hadjust hne⟩, hne⟩

theorem precedes_of_some (hadjust : some rest = some command) :
    WrapperOperand.nothing.Precedes rest command := Option.some.inj hadjust

theorem unwrapNice_invokes (hcall : CalledAs host (js "nice") argv)
    (hunwrap : unwrapNiceInvocation host argv = some command) :
    Invokes host (js "nice") argv command := by
  apply invokes_of_scan niceSynopsis (by decide) hcall ?_
    (fun rest hadjust _ => precedes_of_some hadjust) hunwrap
  intro token
  have hspelled : spelled host niceSynopsis token =
      host.normalizeLowercaseStringOrEmpty token := rfl
  simp only
  split_ifs with hdash hnumber hvalued hshort
  · exact follows_stop hdash
  · refine .inr (.inr ⟨rfl, ?_⟩)
    rw [hspelled]
    simp [isAdjustment, hnumber.1, hnumber.2]
  · exact follows_valued hspelled hvalued inline_iff
  · refine .inr (.inr ⟨rfl, ?_⟩)
    rw [hspelled]
    simp [isAdjustment, hshort.1, hshort.2]
  · trivial

theorem unwrapCaffeinate_invokes (hcall : CalledAs host (js "caffeinate") argv)
    (hunwrap : unwrapCaffeinateInvocation host argv = some command) :
    Invokes host (js "caffeinate") argv command := by
  apply invokes_of_scan caffeinateSynopsis (by decide) hcall ?_
    (fun rest hadjust _ => precedes_of_some hadjust) hunwrap
  intro token
  have hspelled : spelled host caffeinateSynopsis token =
      host.normalizeLowercaseStringOrEmpty token := rfl
  simp only
  split_ifs with hdash hflag hvalued
  · exact follows_stop hdash
  · exact follows_flag hspelled hflag
  · exact follows_valued hspelled hvalued inline_iff_flipped
  · trivial

theorem unwrapNohup_invokes (hcall : CalledAs host (js "nohup") argv)
    (hunwrap : unwrapNohupInvocation host argv = some command) :
    Invokes host (js "nohup") argv command := by
  apply invokes_of_scan nohupSynopsis (by decide) hcall ?_
    (fun rest hadjust _ => precedes_of_some hadjust) hunwrap
  intro token
  have hspelled : spelled host nohupSynopsis token =
      host.normalizeLowercaseStringOrEmpty token := rfl
  simp only
  split_ifs with hdash hflag
  · exact follows_stop hdash
  · exact follows_whole hspelled (by decide) hflag
  · trivial

theorem unwrapSandboxExec_invokes (hcall : CalledAs host (js "sandbox-exec") argv)
    (hunwrap : unwrapSandboxExecInvocation host argv = some command) :
    Invokes host (js "sandbox-exec") argv command := by
  apply invokes_of_scan sandboxExecSynopsis (by decide) hcall ?_
    (fun rest hadjust _ => precedes_of_some hadjust) hunwrap
  intro token
  have hspelled : spelled host sandboxExecSynopsis token =
      host.normalizeLowercaseStringOrEmpty token := rfl
  simp only
  split_ifs with hdash hvalued
  · exact follows_stop hdash
  · exact follows_valued hspelled hvalued inline_iff_flipped
  · trivial

theorem unwrapStdbuf_invokes (hcall : CalledAs host (js "stdbuf") argv)
    (hunwrap : unwrapStdbufInvocation host argv = some command) :
    Invokes host (js "stdbuf") argv command := by
  apply invokes_of_scan stdbufSynopsis (by decide) hcall ?_
    (fun rest hadjust _ => precedes_of_some hadjust) hunwrap
  intro token
  have hspelled : spelled host stdbufSynopsis token =
      host.normalizeLowercaseStringOrEmpty token := rfl
  simp only
  split_ifs with hdash hother
  · exact follows_stop hdash
  · trivial
  · rw [Bool.not_eq_true', Bool.not_eq_false] at hother
    exact follows_valued hspelled hother rfl

theorem unwrapTime_invokes (hcall : CalledAs host (js "time") argv)
    (hunwrap : unwrapTimeInvocation host argv = some command) :
    Invokes host (js "time") argv command := by
  apply invokes_of_scan timeSynopsis (by decide) hcall ?_
    (fun rest hadjust _ => precedes_of_some hadjust) hunwrap
  intro token
  have hspelled : spelled host timeSynopsis token =
      host.normalizeLowercaseStringOrEmpty token := rfl
  simp only
  split_ifs with hdash hflag hvalued
  · exact follows_stop hdash
  · exact follows_flag hspelled hflag
  · exact follows_valued hspelled hvalued rfl
  · trivial

theorem dropTranscript_precedes (hdrop : dropTranscript rest = some command) :
    WrapperOperand.transcript.Precedes rest command := by
  induction rest with
  | nil => cases hdrop
  | cons arg later ih =>
    simp only [dropTranscript] at hdrop
    split_ifs at hdrop with hblank
    · obtain ⟨before, transcript, after, rfl, hfilled, hblanks⟩ := ih hdrop
      refine ⟨arg :: before, transcript, after, rfl, hfilled, ?_⟩
      exact List.forall_mem_cons.mpr ⟨hblank, hblanks⟩
    · rw [← Option.some.inj hdrop]
      refine ⟨[], arg, later.takeWhile fun arg => trim arg == [], ?_, hblank, ?_⟩
      · rw [List.takeWhile_append_dropWhile]
        rfl
      · intro blank hmem
        exact beq_iff_eq.mp (List.mem_takeWhile_imp (p := fun arg => trim arg == []) hmem)

theorem unwrapScript_invokes (hcall : CalledAs host (js "script") argv)
    (hunwrap : unwrapScriptInvocation host argv = some command) :
    Invokes host (js "script") argv command := by
  unfold unwrapScriptInvocation at hunwrap
  split_ifs at hunwrap with hplatform
  apply invokes_of_scan scriptSynopsis (by decide) hcall ?_
    (fun rest hadjust _ => dropTranscript_precedes hadjust) hunwrap
  intro token
  have hspelled : spelled host scriptSynopsis token = token := rfl
  simp only
  split_ifs with hdash hvalued hflag
  · right
    simpa using hdash
  · exact follows_valued hspelled hvalued rfl
  · exact follows_flag hspelled hflag
  · trivial

theorem unwrapTimeout_invokes (hcall : CalledAs host (js "timeout") argv)
    (hunwrap : unwrapTimeoutInvocation host argv = some command) :
    Invokes host (js "timeout") argv command := by
  have hoperand : ∀ rest : Argv, some rest.tail = some command → command ≠ [] →
      WrapperOperand.duration.Precedes rest command := by
    intro rest htail hne
    cases rest with
    | nil => exact absurd (Option.some.inj htail).symm hne
    | cons duration rest => exact ⟨duration, by rw [← Option.some.inj htail]; rfl⟩
  apply invokes_of_scan timeoutSynopsis (by decide) hcall ?_ hoperand hunwrap
  intro token
  have hspelled : spelled host timeoutSynopsis token =
      host.normalizeLowercaseStringOrEmpty token := rfl
  simp only
  split_ifs with hdash hflag hvalued
  · exact follows_stop hdash
  · exact follows_flag hspelled hflag
  · exact follows_valued hspelled hvalued rfl
  · trivial

theorem unwrapXcrun_invokes (hcall : CalledAs host (js "xcrun") argv)
    (hunwrap : unwrapXcrunInvocation host argv = some command) :
    Invokes host (js "xcrun") argv command := by
  apply invokes_of_scan xcrunSynopsis (by decide) hcall ?_
    (fun rest hadjust _ => precedes_of_some hadjust) hunwrap
  intro token
  have hspelled : spelled host xcrunSynopsis token =
      host.normalizeLowercaseStringOrEmpty token := rfl
  simp only
  split_ifs with hdash hflag
  · exact follows_stop hdash
  · exact follows_whole hspelled (by decide) hflag
  · trivial

def FollowsDue (host : Host) (synopsis : WrapperSynopsis) (due : Bool)
    (token : JsString) : WrapperScanDirective × Bool → Prop
  | (.continue_, next) =>
    if due then next = false
    else if next then HasNextValue host synopsis token
    else IsFlag host synopsis token
  | (.consumeNext, _) => False
  | (.stop, _) => due = false ∧ isDashOption token = false
  | (.invalid, _) => True

theorem readsOptions_of_due {onToken : Bool → JsString → JsString → WrapperScanDirective × Bool}
    (hfollows : ∀ due token, FollowsDue host synopsis due token
      (onToken due token (host.normalizeLowercaseStringOrEmpty token)))
    (hne : rest ≠ [])
    (hscan : scanWrapperTokens host [] onToken due false args = some rest) :
    ReadsOptions host synopsis due args rest := by
  induction args generalizing due with
  | nil =>
    exact absurd (Option.some.inj hscan).symm hne
  | cons arg later ih =>
    by_cases hblank : trim arg = []
    · simp only [scanWrapperTokens, if_pos hblank] at hscan
      exact .blank hblank (ih hscan)
    · have hseparator : isAnyOf (trim arg) [] = false := rfl
      simp only [scanWrapperTokens, if_neg hblank, hseparator, Bool.false_eq_true,
        if_false] at hscan
      have htoken := hfollows due (trim arg)
      rcases honToken : onToken due (trim arg)
        (host.normalizeLowercaseStringOrEmpty (trim arg)) with ⟨directive, next⟩
      rw [honToken] at htoken
      cases directive with
      | continue_ =>
        simp only [honToken] at hscan
        simp only [FollowsDue] at htoken
        have hlater := ih hscan
        split_ifs at htoken with hdue hnext
        · rw [htoken] at hlater
          rw [hdue]
          exact .value hblank hlater
        · rw [hnext] at hlater
          rw [Bool.eq_false_iff.mpr hdue]
          exact .valued htoken hlater
        · rw [Bool.eq_false_iff.mpr hnext] at hlater
          rw [Bool.eq_false_iff.mpr hdue]
          exact .flag htoken hlater
      | consumeNext => exact htoken.elim
      | stop =>
        simp only [honToken] at hscan
        rw [← Option.some.inj hscan, htoken.1]
        exact .command hblank (.inl htoken.2)
      | invalid =>
        simp only [honToken] at hscan
        cases hscan

theorem isAnyOf_of_known {name : JsString} (hknown : isKnownArchSelectorToken name = true) :
    isAnyOf name archSynopsis.flags = true := by
  obtain ⟨flag, hmem, heq⟩ := List.any_eq_true.mp hknown
  apply List.any_eq_true.mpr
  refine ⟨flag, ?_, heq⟩
  simp only [List.mem_cons, List.not_mem_nil, or_false] at hmem
  rcases hmem with rfl | rfl | rfl | rfl | rfl
  all_goals decide

theorem unwrapArch_invokes (hcall : CalledAs host (js "arch") argv)
    (hunwrap : unwrapArchInvocation host argv = some command) :
    Invokes host (js "arch") argv command := by
  obtain ⟨hscan, hruns⟩ := Option.filter_eq_some_iff.mp hunwrap
  have hne : command ≠ [] := by simpa using hruns
  refine ⟨hcall, ⟨archSynopsis, by decide, rfl, command, ?_, rfl⟩, hne⟩
  refine readsOptions_of_due ?_ hne hscan
  intro due token
  have hspelled : spelled host archSynopsis token =
      host.normalizeLowercaseStringOrEmpty token := rfl
  cases due with
  | true =>
    simp only [if_true]
    split_ifs
    · rfl
    · trivial
  | false =>
    simp only [Bool.false_eq_true, if_false]
    split_ifs with hdash hbits harch hmutates hknown
    · exact ⟨rfl, by simpa using hdash⟩
    · have hflag : isAnyOf (host.normalizeLowercaseStringOrEmpty token)
          archSynopsis.flags = true := by
        obtain ⟨flag, hmem, heq⟩ := List.any_eq_true.mp hbits
        apply List.any_eq_true.mpr
        refine ⟨flag, ?_, heq⟩
        simp at hmem
        rcases hmem with rfl | rfl
        all_goals decide
      exact follows_whole hspelled (by decide) hflag
    · have hvalued : isAnyOf (spelled host archSynopsis token) archSynopsis.valued =
          true := by
        rw [hspelled, harch]
        decide
      exact hvalued
    · trivial
    · exact follows_whole hspelled (by decide) (isAnyOf_of_known hknown.2)
    · trivial

theorem unwrapEnvTokens_of_due (hplain : envTokensUseModifiers host true args = false) :
    unwrapEnvTokens host true args = none := by
  induction args with
  | nil => rfl
  | cons arg rest ih =>
    simp only [envTokensUseModifiers] at hplain
    simp only [unwrapEnvTokens]
    split_ifs at hplain with hblank
    rw [if_pos hblank]
    exact ih hplain

theorem unwrapEnvTokens_reads (hunwrap : unwrapEnvTokens host false args = some command)
    (hplain : envTokensUseModifiers host false args = false) :
    ReadsOptions host envSynopsis false args command ∨
      ∃ blanks dash, args = blanks ++ dash :: command ∧ trim dash = js "-" := by
  induction args with
  | nil =>
    left
    rw [← Option.some.inj hunwrap]
    exact .ended
  | cons arg rest ih =>
    simp only [envTokensUseModifiers] at hplain
    simp only [unwrapEnvTokens] at hunwrap
    split_ifs at hplain with hblank hdue hseparator hassignment hdash hflag hvalued
    · rw [if_pos hblank] at hunwrap
      rcases ih hunwrap hplain with hreads | ⟨blanks, dash, rfl, hdash⟩
      · exact .inl (.blank hblank hreads)
      · exact .inr ⟨arg :: blanks, dash, rfl, hdash⟩
    · rw [if_neg hblank, if_neg Bool.false_ne_true, if_pos hseparator] at hunwrap
      cases hunwrap
      obtain ⟨mark, hmem, heq⟩ := List.any_eq_true.mp hseparator
      simp only [List.mem_cons, List.not_mem_nil, or_false] at hmem
      rcases hmem with rfl | rfl
      · have hdashes : isAnyOf (trim arg) envSynopsis.separators = true := by
          rw [← beq_iff_eq.mp heq]
          decide
        exact .inl (.separator hdashes)
      · exact .inr ⟨[], arg, rfl, (beq_iff_eq.mp heq).symm⟩
    · rw [if_neg hblank, if_neg Bool.false_ne_true, if_neg hseparator, if_neg hassignment,
        if_pos hdash] at hunwrap
      rw [← Option.some.inj hunwrap]
      exact .inl (.command hblank (.inl (by simpa using hdash)))
    · rw [if_neg hblank, if_neg Bool.false_ne_true, if_neg hseparator, if_neg hassignment,
        if_neg hdash, if_neg hflag, if_pos hvalued] at hunwrap
      rw [Bool.or_eq_false_iff] at hplain
      rw [hplain.1, Bool.not_false, unwrapEnvTokens_of_due hplain.2] at hunwrap
      cases hunwrap

theorem unwrapEnv_invokes (hcall : CalledAs host (js "env") argv)
    (hunwrap : unwrapEnvInvocation host argv = some command)
    (hplain : envInvocationUsesModifiers host argv = false) :
    Invokes host (js "env") argv command ∨
      ∃ head blanks dash, argv = head :: (blanks ++ dash :: command) ∧ trim dash = js "-" := by
  obtain ⟨htokens, hruns⟩ := Option.filter_eq_some_iff.mp hunwrap
  have hne : command ≠ [] := by simpa using hruns
  rcases unwrapEnvTokens_reads htokens hplain with hreads | ⟨blanks, dash, htail, hdash⟩
  · exact .inl ⟨hcall, ⟨envSynopsis, by decide, rfl, command, hreads, rfl⟩, hne⟩
  · obtain ⟨token, hfirst, -⟩ := hcall
    obtain ⟨head, args, rfl, -⟩ := firstToken_eq_some hfirst
    have hargs : args = blanks ++ dash :: command := htail
    exact .inr ⟨head, blanks, dash, by rw [hargs], hdash⟩

end Wrappers

variable {argv command : Argv} {wrapper : JsString}

theorem unwrapDispatch_eq_unwrapped
    (hunwrap : unwrapKnownDispatchWrapperInvocation host argv = .unwrapped wrapper command) :
    CalledAs host wrapper argv ∧ ∃ spec ∈ dispatchWrapperSpecs host, js spec.name = wrapper ∧
      dispatchWrapperSpec host wrapper = some spec ∧
      ∃ unwrap, spec.unwrap = some unwrap ∧ unwrap argv = some command := by
  unfold unwrapKnownDispatchWrapperInvocation at hunwrap
  split at hunwrap
  · cases hunwrap
  · next token hfirst =>
      simp only at hunwrap
      split at hunwrap
      · cases hunwrap
      · next spec hspec =>
          split at hunwrap
          · next unwrapped hunwrapped =>
              obtain ⟨rfl, rfl⟩ := UnwrapResult.unwrapped.inj hunwrap
              obtain ⟨unwrap, hunwrap, hresult⟩ := Option.bind_eq_some_iff.mp hunwrapped
              have hname := List.find?_some hspec
              exact ⟨⟨token, hfirst, rfl⟩, spec, List.mem_of_find?_eq_some hspec,
                beq_iff_eq.mp hname, hspec, unwrap, hunwrap, hresult⟩
          · cases hunwrap

theorem runs_of_filter {result : Option Argv}
    (hresult : result.filter (fun rest => decide (rest ≠ [])) = some command) :
    command ≠ [] := by
  have hruns := (Option.filter_eq_some_iff.mp hresult).2
  simpa using hruns

section

variable (hunwrap : unwrapKnownDispatchWrapperInvocation host argv = .unwrapped wrapper command)
include hunwrap

theorem unwrapDispatch_ne_nil : command ≠ [] := by
  obtain ⟨-, spec, hmem, -, -, unwrap, hsome, hresult⟩ := unwrapDispatch_eq_unwrapped hunwrap
  simp only [dispatchWrapperSpecs, List.mem_cons, List.not_mem_nil, or_false] at hmem
  rcases hmem with rfl | rfl | rfl | rfl | rfl | rfl | rfl | rfl | rfl | rfl | rfl | rfl |
    rfl | rfl | rfl | rfl | rfl
  all_goals cases hsome
  all_goals
    try unfold unwrapScriptInvocation at hresult
    try split_ifs at hresult
    exact runs_of_filter hresult

theorem unwrapDispatch_invokes (hplain : isSemanticDispatchWrapperUsage host wrapper argv = false) :
    Invokes host wrapper argv command ∨ wrapper = js "env" ∧
      ∃ head blanks dash, argv = head :: (blanks ++ dash :: command) ∧ trim dash = js "-" := by
  obtain ⟨hcall, spec, hmem, rfl, hspec, unwrap, hsome, hresult⟩ :=
    unwrapDispatch_eq_unwrapped hunwrap
  unfold isSemanticDispatchWrapperUsage at hplain
  rw [hspec] at hplain
  simp only [dispatchWrapperSpecs, List.mem_cons, List.not_mem_nil, or_false] at hmem
  rcases hmem with rfl | rfl | rfl | rfl | rfl | rfl | rfl | rfl | rfl | rfl | rfl | rfl |
    rfl | rfl | rfl | rfl | rfl
  all_goals cases hsome
  · split_ifs at hresult
    exact .inl (unwrapArch_invokes hcall hresult)
  · exact .inl (unwrapCaffeinate_invokes hcall hresult)
  · have hmodifiers : envInvocationUsesModifiers host argv = false := by
      simpa using hplain
    rcases unwrapEnv_invokes hcall hresult hmodifiers with hinvokes | hdash
    · exact .inl hinvokes
    · exact .inr ⟨rfl, hdash⟩
  · exact .inl (unwrapNice_invokes hcall hresult)
  · exact .inl (unwrapNohup_invokes hcall hresult)
  · exact .inl (unwrapSandboxExec_invokes hcall hresult)
  · exact .inl (unwrapScript_invokes hcall hresult)
  · exact .inl (unwrapStdbuf_invokes hcall hresult)
  · exact .inl (unwrapTime_invokes hcall hresult)
  · exact .inl (unwrapTimeout_invokes hcall hresult)
  · split_ifs at hresult
    exact .inl (unwrapXcrun_invokes hcall hresult)

end

end LittleBaby.Exec
