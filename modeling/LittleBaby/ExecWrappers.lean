import LittleBaby.ExecPaths

/-!
# Wrappers around a command

`env`, `nice` and the like dispatch to another command, and `busybox` to one of
its applets.
-/

namespace LittleBaby.Exec

open JsString

abbrev Argv := List JsString

variable (host : Host)

def isAnyOf (text : JsString) (names : List String) : Bool := names.any fun name => js name == text

variable (argv : Argv)

/-- `argv[0]?.trim()`, when it is not empty. -/
def firstToken : Option JsString := argv.head?.bind nonBlank

inductive WrapperScanDirective where
  | continue_
  | consumeNext
  | stop
  | invalid

/-- The arguments from the command on.  `onToken` sees each option, trimmed and
in lower case, and may carry a state. -/
def scanWrapperTokens {State : Type} (separators : List String)
    (onToken : State → JsString → JsString → WrapperScanDirective × State) :
    State → Bool → Argv → Option Argv
  | _, expectsOptionValue, [] => if expectsOptionValue then none else some []
  | state, expectsOptionValue, arg :: rest =>
    let token := trim arg
    if token = [] then
      scanWrapperTokens separators onToken state expectsOptionValue rest
    else if expectsOptionValue then
      scanWrapperTokens separators onToken state false rest
    else if isAnyOf token separators then some rest
    else
      match onToken state token (host.normalizeLowercaseStringOrEmpty token) with
      | (.stop, _) => some (arg :: rest)
      | (.invalid, _) => none
      | (.consumeNext, state) =>
        scanWrapperTokens separators onToken state true rest
      | (.continue_, state) =>
        scanWrapperTokens separators onToken state false rest

/-- `scanWrapperInvocation`; the arguments left may not be empty. -/
def scanWrapperInvocation (separators : List String)
    (onToken : JsString → JsString → WrapperScanDirective)
    (adjustCommandIndex : Argv → Option Argv) (argv : Argv) : Option Argv :=
  ((scanWrapperTokens host separators
    (fun (_ : Unit) token lower => (onToken token lower, ())) () false
    argv.tail).bind adjustCommandIndex).filter (· ≠ [])

/-- `lower.split("=", 2)[0]`. -/
def optionFlag (lower : JsString) : JsString := lower.takeWhile (· ≠ 0x3D)

variable (token : JsString)

def isDashOption : Bool := token.head? = some 0x2D && token ≠ js "-"

def unwrapDashOptionInvocation (onFlag : JsString → JsString → WrapperScanDirective)
    (adjustCommandIndex : Argv → Option Argv) (argv : Argv) : Option Argv :=
  scanWrapperInvocation host ["--"]
    (fun token lower =>
      if !isDashOption token then .stop else onFlag (optionFlag lower) lower)
    adjustCommandIndex argv

def valueDirective (inline : Bool) : WrapperScanDirective :=
  if inline then .continue_ else .consumeNext

def isDigits (text : JsString) : Bool :=
  !text.isEmpty && text.all fun unit => 0x30 ≤ unit && unit ≤ 0x39

def unwrapNiceInvocation : Argv → Option Argv :=
  unwrapDashOptionInvocation host (fun flag lower =>
    if lower.head? = some 0x2D ∧ isDigits lower.tail then .continue_
    else if isAnyOf flag ["-n", "--adjustment", "--priority"] then
      valueDirective (lower.contains 0x3D || lower ≠ flag)
    else if (js "-n").isPrefixOf lower ∧ 2 < lower.length then .continue_
    else .invalid) some

def unwrapCaffeinateInvocation : Argv → Option Argv :=
  unwrapDashOptionInvocation host (fun flag lower =>
    if isAnyOf flag ["-d", "-i", "-m", "-s", "-u"] then .continue_
    else if isAnyOf flag ["-t", "-w"] then
      valueDirective (lower ≠ flag || lower.contains 0x3D)
    else .invalid) some

def unwrapNohupInvocation : Argv → Option Argv :=
  scanWrapperInvocation host ["--"] (fun token lower =>
    if !isDashOption token then .stop
    else if isAnyOf lower ["--help", "--version"] then .continue_
    else .invalid) some

def unwrapSandboxExecInvocation : Argv → Option Argv :=
  unwrapDashOptionInvocation host (fun flag lower =>
    if isAnyOf flag ["-f", "-p", "-d"] then
      valueDirective (lower ≠ flag || lower.contains 0x3D)
    else .invalid) some

def unwrapStdbufInvocation : Argv → Option Argv :=
  unwrapDashOptionInvocation host (fun flag lower =>
    if !isAnyOf flag ["-i", "--input", "-o", "--output", "-e", "--error"] then
      .invalid
    else valueDirective (lower.contains 0x3D)) some

def unwrapTimeInvocation : Argv → Option Argv :=
  unwrapDashOptionInvocation host (fun flag lower =>
    if isAnyOf flag ["-a", "--append", "-h", "--help", "-l", "-p", "-q",
        "--quiet", "-v", "--verbose", "-V", "--version"] then .continue_
    else if isAnyOf flag ["-f", "--format", "-o", "--output"] then
      valueDirective (lower.contains 0x3D)
    else .invalid) some

def dropTranscript : Argv → Option Argv
  | [] => none
  | arg :: rest =>
    if trim arg = [] then dropTranscript rest
    else some (rest.dropWhile fun arg => trim arg == [])

def unwrapScriptInvocation : Option Argv :=
  if !isAnyOf host.platform ["darwin", "freebsd"] then none
  else
    scanWrapperInvocation host ["--"] (fun token lower =>
      if !isDashOption lower then .stop
      else
        let flag := optionFlag token
        if isAnyOf flag ["-F", "-t"] then valueDirective (token.contains 0x3D)
        else if isAnyOf flag ["-a", "-d", "-k", "-p", "-q", "-r"] then .continue_
        else .invalid) dropTranscript argv

def unwrapTimeoutInvocation : Argv → Option Argv :=
  unwrapDashOptionInvocation host (fun flag lower =>
    if isAnyOf flag ["--foreground", "--preserve-status", "-v", "--verbose"] then
      .continue_
    else if isAnyOf flag ["-k", "--kill-after", "-s", "--signal"] then
      valueDirective (lower.contains 0x3D)
    else .invalid) fun rest => some rest.tail

def isKnownArchSelectorToken : Bool :=
  isAnyOf token ["-arm64", "-arm64e", "-i386", "-x86_64", "-x86_64h"]

/-- `/^-[A-Za-z0-9_]+$/`. -/
def isArchSelectorToken : Bool :=
  token.head? = some 0x2D && !token.tail.isEmpty && token.tail.all fun unit =>
      isLetter unit || (0x30 ≤ unit && unit ≤ 0x39) || unit == 0x5F

def unwrapArchInvocation : Option Argv :=
  (scanWrapperTokens host [] (fun expectsArchName token lower =>
    if expectsArchName then
      (if isKnownArchSelectorToken (0x2D :: lower) then .continue_ else .invalid, false)
    else if !isDashOption token then (.stop, false)
    else if isAnyOf lower ["-32", "-64"] then (.continue_, false)
    else if lower = js "-arch" then (.continue_, true)
    else if isAnyOf lower ["-c", "-d", "-e", "-h"] then (.invalid, false)
    else
      (if isArchSelectorToken token ∧ isKnownArchSelectorToken lower then
          .continue_
        else .invalid, false)) false false argv.tail).filter (· ≠ [])

def unwrapXcrunInvocation : Argv → Option Argv :=
  scanWrapperInvocation host [] (fun token lower =>
    if !isDashOption token then .stop
    else if isAnyOf lower ["-k", "--kill-cache", "-l", "--log", "-n",
        "--no-cache", "-r", "--run", "-v", "--verbose"] then .continue_
    else .invalid) some

/-- `/^[A-Za-z_][A-Za-z0-9_]*=.*/`. -/
def isEnvAssignment : Bool :=
  let name := optionFlag token
  name.length < token.length && name.head?.any (fun unit => isLetter unit || unit == 0x5F) &&
    name.all fun unit =>
      isLetter unit || (0x30 ≤ unit && unit ≤ 0x39) || unit == 0x5F

def envFlagOptions : List String :=
  ["-i", "--ignore-environment", "-0", "--null"]

def envOptionsWithValue : List String :=
  ["-u", "--unset", "-c", "--chdir", "-s", "--split-string", "--default-signal",
    "--ignore-signal", "--block-signal"]

def hasEnvInlineValuePrefix (lower : JsString) : Bool :=
  ["-u", "-c", "-s", "--unset=", "--chdir=", "--split-string=",
    "--default-signal=", "--ignore-signal=", "--block-signal="].any
    fun start => (js start).isPrefixOf lower

/-- `parseEnvInvocationPrelude`, up to the command. -/
def unwrapEnvTokens : Bool → Argv → Option Argv
  | expectsOptionValue, [] => if expectsOptionValue then none else some []
  | expectsOptionValue, arg :: rest =>
    let token := trim arg
    let lower := host.normalizeLowercaseStringOrEmpty token
    let flag := optionFlag lower
    if token = [] then unwrapEnvTokens expectsOptionValue rest
    else if expectsOptionValue then unwrapEnvTokens false rest
    else if isAnyOf token ["--", "-"] then some rest
    else if isEnvAssignment token then unwrapEnvTokens false rest
    else if !isDashOption token then some (arg :: rest)
    else if isAnyOf flag envFlagOptions then unwrapEnvTokens false rest
    else if isAnyOf flag envOptionsWithValue then
      unwrapEnvTokens (!lower.contains 0x3D) rest
    else if hasEnvInlineValuePrefix lower then unwrapEnvTokens false rest
    else none

def unwrapEnvInvocation : Option Argv := (unwrapEnvTokens host false argv.tail).filter (· ≠ [])

def envTokensUseModifiers : Bool → Argv → Bool
  | _, [] => false
  | expectsOptionValue, arg :: rest =>
    let token := trim arg
    let lower := host.normalizeLowercaseStringOrEmpty token
    let flag := optionFlag lower
    if token = [] then envTokensUseModifiers expectsOptionValue rest
    else if expectsOptionValue then true
    else if isAnyOf token ["--", "-"] then false
    else if isEnvAssignment token then true
    else if !isDashOption token then false
    else if isAnyOf flag envFlagOptions then true
    else if isAnyOf flag envOptionsWithValue then
      lower.contains 0x3D || envTokensUseModifiers true rest
    else true

def envInvocationUsesModifiers : Bool := envTokensUseModifiers host false argv.tail

/-- `unwrap` is missing where a wrapper is always blocked. -/
structure DispatchWrapperSpec where
  name : String
  unwrap : Option (Argv → Option Argv)
  transparentUsage : Argv → Bool

def isDarwin : Bool := host.platform == js "darwin"

def dispatchWrapperSpecs : List DispatchWrapperSpec :=
  [⟨"arch", some fun argv =>
      if isDarwin host then unwrapArchInvocation host argv else none,
      fun _ => isDarwin host⟩,
    ⟨"caffeinate", some (unwrapCaffeinateInvocation host), fun _ => true⟩,
    ⟨"chrt", none, fun _ => false⟩,
    ⟨"doas", none, fun _ => false⟩,
    ⟨"env", some (unwrapEnvInvocation host), fun argv => !envInvocationUsesModifiers host argv⟩,
    ⟨"ionice", none, fun _ => false⟩,
    ⟨"nice", some (unwrapNiceInvocation host), fun _ => true⟩,
    ⟨"nohup", some (unwrapNohupInvocation host), fun _ => true⟩,
    ⟨"sandbox-exec", some (unwrapSandboxExecInvocation host), fun _ => true⟩,
    ⟨"script", some (unwrapScriptInvocation host), fun _ => true⟩,
    ⟨"setsid", none, fun _ => false⟩,
    ⟨"stdbuf", some (unwrapStdbufInvocation host), fun _ => true⟩,
    ⟨"sudo", none, fun _ => false⟩,
    ⟨"taskset", none, fun _ => false⟩,
    ⟨"time", some (unwrapTimeInvocation host), fun _ => true⟩,
    ⟨"timeout", some (unwrapTimeoutInvocation host), fun _ => true⟩,
    ⟨"xcrun", some fun argv =>
      if isDarwin host then unwrapXcrunInvocation host argv else none,
      fun _ => isDarwin host⟩]

def dispatchWrapperSpec (wrapper : JsString) : Option DispatchWrapperSpec :=
  (dispatchWrapperSpecs host).find? fun spec => js spec.name == wrapper

inductive UnwrapResult where
  | notWrapper
  | blocked (wrapper : JsString)
  | unwrapped (wrapper : JsString) (argv : Argv)
  deriving DecidableEq

def isDispatchWrapperExecutable : Bool :=
  (dispatchWrapperSpec host (normalizeExecutableToken host token)).isSome

def unwrapKnownDispatchWrapperInvocation : UnwrapResult :=
  match firstToken argv with
  | none => .notWrapper
  | some token0 =>
    let wrapper := normalizeExecutableToken host token0
    match dispatchWrapperSpec host wrapper with
    | none => .notWrapper
    | some spec =>
      match spec.unwrap.bind fun unwrap => unwrap argv with
      | some unwrapped => .unwrapped wrapper unwrapped
      | none => .blocked wrapper

def maxDispatchWrapperDepth : ℕ := 4

def isSemanticDispatchWrapperUsage (wrapper : JsString) (argv : Argv) : Bool :=
  match dispatchWrapperSpec host wrapper with
  | none => true
  | some spec => spec.unwrap.isNone || !spec.transparentUsage argv

structure DispatchWrapperTrustPlan where
  argv : Argv
  wrappers : List JsString
  policyBlocked : Bool

def dispatchTrustLoop : ℕ → List JsString → Argv → DispatchWrapperTrustPlan
  | 0, wrappers, current => ⟨current, wrappers, false⟩
  | depth + 1, wrappers, current =>
    match unwrapKnownDispatchWrapperInvocation host current with
    | .notWrapper => ⟨current, wrappers, false⟩
    | .blocked _ => ⟨current, wrappers, true⟩
    | .unwrapped wrapper argv =>
      if argv = [] then ⟨current, wrappers, false⟩
      else if isSemanticDispatchWrapperUsage host wrapper current then
        ⟨current, wrappers ++ [wrapper], true⟩
      else dispatchTrustLoop depth (wrappers ++ [wrapper]) argv

def resolveDispatchWrapperTrustPlan (maxDepth : ℕ) : DispatchWrapperTrustPlan :=
  let plan := dispatchTrustLoop host maxDepth [] argv
  if plan.policyBlocked then plan
  else if maxDepth ≤ plan.wrappers.length ∧
      unwrapKnownDispatchWrapperInvocation host plan.argv ≠ .notWrapper then
    { plan with policyBlocked := true }
  else plan

def posixShellWrapperNames : List String := ["ash", "bash", "dash", "fish", "ksh", "sh", "zsh"]

def windowsCmdWrapperNames : List String := ["cmd"]

def powershellWrapperNames : List String := ["powershell", "pwsh"]

inductive ShellWrapperKind where
  | posix
  | cmd
  | powershell

def findShellWrapperSpec (baseExecutable : JsString) : Option ShellWrapperKind :=
  if isAnyOf baseExecutable posixShellWrapperNames then some .posix
  else if isAnyOf baseExecutable windowsCmdWrapperNames then some .cmd
  else if isAnyOf baseExecutable powershellWrapperNames then some .powershell
  else none

def isShellWrapperExecutable : Bool :=
  (findShellWrapperSpec (normalizeExecutableToken host token)).isSome

def unwrapKnownShellMultiplexerInvocation : UnwrapResult :=
  match firstToken argv with
  | none => .notWrapper
  | some token0 =>
    let wrapper := normalizeExecutableToken host token0
    if !isAnyOf wrapper ["busybox", "toybox"] then .notWrapper
    else
      let rest := argv.tail
      let applets :=
        if rest.head?.map trim = some (js "--") then rest.tail else rest
      match firstToken applets with
      | none => .blocked wrapper
      | some applet =>
        if !isShellWrapperExecutable host applet then .blocked wrapper
        else .unwrapped wrapper applets

structure ExecWrapperTrustPlan where
  argv : Argv
  policyArgv : Argv
  policyBlocked : Bool

def finishTrustPlan (current policyArgv : Argv) (wrapperCount maxDepth : ℕ) :
    ExecWrapperTrustPlan :=
  if maxDepth ≤ wrapperCount ∧ (unwrapKnownDispatchWrapperInvocation host current ≠ .notWrapper ∨
        unwrapKnownShellMultiplexerInvocation host current ≠ .notWrapper) then
    ⟨current, policyArgv, true⟩
  else ⟨current, policyArgv, false⟩

def trustPlanLoop (maxDepth : ℕ) : ℕ → Argv → Argv → Bool → ℕ → ExecWrapperTrustPlan
  | 0, current, policyArgv, _, wrapperCount =>
    finishTrustPlan host current policyArgv wrapperCount maxDepth
  | depth + 1, current, policyArgv, sawShellMultiplexer, wrapperCount =>
    let dispatchPlan := resolveDispatchWrapperTrustPlan host current (maxDepth - wrapperCount)
    if dispatchPlan.policyBlocked then
      ⟨dispatchPlan.argv, dispatchPlan.argv, true⟩
    else if dispatchPlan.wrappers ≠ [] then
      let count := wrapperCount + dispatchPlan.wrappers.length
      let current := dispatchPlan.argv
      let policyArgv := if sawShellMultiplexer then policyArgv else current
      if maxDepth ≤ count then
        finishTrustPlan host current policyArgv count maxDepth
      else trustPlanLoop maxDepth depth current policyArgv sawShellMultiplexer count
    else
      match unwrapKnownShellMultiplexerInvocation host current with
      | .blocked _ => ⟨current, policyArgv, true⟩
      | .notWrapper =>
        finishTrustPlan host current policyArgv wrapperCount maxDepth
      | .unwrapped _ argv =>
        let policyArgv := if sawShellMultiplexer then policyArgv else current
        if maxDepth ≤ wrapperCount + 1 then
          finishTrustPlan host argv policyArgv (wrapperCount + 1) maxDepth
        else trustPlanLoop maxDepth depth argv policyArgv true (wrapperCount + 1)

def resolveExecWrapperTrustPlan : ExecWrapperTrustPlan :=
  trustPlanLoop host maxDispatchWrapperDepth maxDispatchWrapperDepth argv argv false 0

end LittleBaby.Exec
