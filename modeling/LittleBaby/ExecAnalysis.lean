import LittleBaby.ExecShellSplit
import LittleBaby.ExecWrappers

/-!
# Analysis of a command

A command becomes segments, each with its arguments and the executable that they
resolve to.
-/

namespace LittleBaby.Exec

open JsString

variable (host : Host)

structure ExecutableResolution where
  rawExecutable : JsString
  resolvedPath : Option JsString
  executableName : JsString

structure CommandResolution where
  execution : ExecutableResolution
  policy : ExecutableResolution
  effectiveArgv : Argv
  policyBlocked : Bool

def buildExecutableResolution (rawExecutable : JsString) (cwd : Option JsString) :
    ExecutableResolution :=
  let resolvedPath := resolveExecutablePath host rawExecutable cwd
  { rawExecutable := rawExecutable
    resolvedPath := resolvedPath
    executableName := match resolvedPath with
      | some path => basename path
      | none => rawExecutable }

def resolveCommandResolutionFromArgv (argv : Argv) (cwd : Option JsString) :
    Option CommandResolution :=
  let plan := resolveExecWrapperTrustPlan host argv
  (firstToken plan.argv).map fun rawExecutable =>
    let execution := buildExecutableResolution host rawExecutable cwd
    { execution := execution
      policy := match firstToken plan.policyArgv with
        | some policyRawExecutable =>
          buildExecutableResolution host policyRawExecutable cwd
        | none => execution
      effectiveArgv := plan.argv
      policyBlocked := plan.policyBlocked }

def resolveExecutableCandidatePathFromResolution
    (resolution : ExecutableResolution) (cwd : Option JsString) :
    Option JsString :=
  match resolution.resolvedPath with
  | some path => some path
  | none =>
    (nonBlank resolution.rawExecutable).bind fun raw =>
      resolveExecutablePathCandidate host raw cwd true

structure ExecCommandSegment where
  raw : JsString
  argv : Argv
  resolution : Option CommandResolution

/-- `chains` groups the segments where the command has chain operators. -/
structure ExecCommandAnalysis where
  segments : List ExecCommandSegment
  chains : Option (List (List ExecCommandSegment))

def isWindowsPlatform (platform : Option JsString) : Bool :=
  match platform with
  | none => false
  | some name =>
    (js "win").isPrefixOf (host.normalizeLowercaseStringOrEmpty name)

def toSegment (cwd : Option JsString) (raw : JsString) (argv : Argv) :
    ExecCommandSegment :=
  ⟨raw, argv, resolveCommandResolutionFromArgv host argv cwd⟩

def parseSegmentsFromParts (cwd : Option JsString) :
    List JsString → Option (List ExecCommandSegment)
  | [] => some []
  | raw :: rest =>
    match splitShellArgs raw with
    | none => none
    | some [] => none
    | some argv =>
      (parseSegmentsFromParts cwd rest).map fun segments =>
        toSegment host cwd raw argv :: segments

def analyzePipeline (cwd : Option JsString) (command : JsString) :
    Except JsString (List ExecCommandSegment) :=
  match splitShellPipeline command with
  | .error reason => .error reason
  | .ok parts =>
    match parseSegmentsFromParts host cwd parts with
    | none => .error (js "unable to parse shell segment")
    | some segments => .ok segments

def analyzeChain (cwd : Option JsString) :
    List JsString → Except JsString (List (List ExecCommandSegment))
  | [] => .ok []
  | part :: rest =>
    match analyzePipeline host cwd part with
    | .error reason => .error reason
    | .ok segments =>
      match analyzeChain cwd rest with
      | .error reason => .error reason
      | .ok chains => .ok (segments :: chains)

variable (unit : UInt16)

/-- The units `&`, `|`, `<`, `>`, `^`, `(`, `)`, `%`, `!`, the backquote and the
newlines. -/
def isWindowsUnsupportedToken : Bool :=
  unit ∈ ([0x26, 0x7C, 0x3C, 0x3E, 0x5E, 0x28, 0x29, 0x25, 0x21, 0x60, 0x0A, 0x0D] : List UInt16)

def isWindowsAlwaysUnsafeToken : Bool := unit ∈ ([0x0A, 0x0D, 0x25, 0x60] : List UInt16)

/-- `/[A-Za-z_{(?$]/`. -/
def startsExpansion : Bool := isLetter unit || unit ∈ ([0x5F, 0x7B, 0x28, 0x3F, 0x24] : List UInt16)

def findWindowsUnsupportedToken : Bool → JsString → Option JsString
  | _, [] => none
  | inDouble, unit :: rest =>
    if unit = 0x22 then findWindowsUnsupportedToken (!inDouble) rest
    else if unit = 0x24 then
      if rest.head?.any startsExpansion then some [unit]
      else findWindowsUnsupportedToken inDouble rest
    else if isWindowsUnsupportedToken unit && !(inDouble && !isWindowsAlwaysUnsafeToken unit) then
      some (if isNewline unit then js "newline" else [unit])
    else findWindowsUnsupportedToken inDouble rest

structure WindowsScan where
  quoting : Quoting
  skip : ℕ
  wasQuoted : Bool
  buf : JsString
  tokens : List JsString

namespace WindowsScan

variable (scan : WindowsScan)

def pushToken : WindowsScan :=
  if scan.buf ≠ [] ∨ scan.wasQuoted then
    { scan with
      buf := []
      tokens := scan.tokens ++ [scan.buf]
      wasQuoted := false }
  else scan

def push (unit : UInt16) : WindowsScan := { scan with buf := scan.buf ++ [unit] }

def step (unit : UInt16) (next : Option UInt16) : WindowsScan :=
  if 0 < scan.skip then { scan with skip := scan.skip - 1 }
  else
    match scan.quoting with
    | .double =>
      if unit = 0x22 then { scan with quoting := .plain } else scan.push unit
    | .single =>
      if unit = 0x27 then
        if next = some 0x27 then { scan.push unit with skip := 1 }
        else { scan with quoting := .plain }
      else scan.push unit
    | _ =>
      if unit = 0x22 then { scan with quoting := .double, wasQuoted := true }
      else if unit = 0x27 then
        { scan with quoting := .single, wasQuoted := true }
      else if isSpace unit then scan.pushToken
      else scan.push unit

def run (scan : WindowsScan) : JsString → WindowsScan
  | [] => scan
  | unit :: rest => (scan.step unit rest.head?).run rest

end WindowsScan

def tokenizeWindowsSegment (segment : JsString) : Option (List JsString) :=
  let scan := WindowsScan.run ⟨.plain, 0, false, [], []⟩ segment
  if scan.quoting ≠ .plain then none
  else
    let tokens := scan.pushToken.tokens
    if tokens = [] then none else some tokens

/-- `strip` stands for `stripWindowsShellWrapper`. -/
def analyzeWindowsShellCommand (strip : JsString → JsString)
    (cwd : Option JsString) (command : JsString) :
    Except JsString ExecCommandAnalysis :=
  let effective := strip (trim command)
  match findWindowsUnsupportedToken false effective with
  | some token => .error (js "unsupported windows shell token: " ++ token)
  | none =>
    match tokenizeWindowsSegment effective with
    | none => .error (js "unable to parse windows command")
    | some argv => .ok ⟨[toSegment host cwd command argv], none⟩

def analyzeShellCommand (strip : JsString → JsString) (platform cwd : Option JsString)
    (command : JsString) : Except JsString ExecCommandAnalysis :=
  if isWindowsPlatform host platform then
    analyzeWindowsShellCommand host strip cwd command
  else
    match splitCommandChain command with
    | some parts =>
      match analyzeChain host cwd parts with
      | .error reason => .error reason
      | .ok chains => .ok ⟨chains.flatten, some chains⟩
    | none =>
      match analyzePipeline host cwd command with
      | .error reason => .error reason
      | .ok segments => .ok ⟨segments, none⟩

end LittleBaby.Exec
