import LittleBaby.ExecWrappers

/-!
# Commands inside a command

A shell may carry a command in an argument.  The arguments are searched for a
flag that looks like `-c`, and the command is what follows it.
-/

namespace LittleBaby.Exec

open JsString

variable (host : Host)

def posixInlineCommandFlags : List String := ["-lc", "-c", "--command"]

def powershellInlineCommandFlags : List String :=
  ["-c", "-command", "--command", "-f", "-file", "-encodedcommand", "-enc", "-e"]

def isLetterC (unit : UInt16) : Bool := unit == 0x63 || unit == 0x43

/-- `/^-[^-]*c[^-]*$/i`. -/
def isCombinedC (token : JsString) : Bool :=
  token.head? = some 0x2D && !token.tail.contains 0x2D && token.tail.any isLetterC

structure InlineCommandMatch where
  command : Option JsString
  valueTokenIndex : Option ℕ

def nextArgumentMatch (index : ℕ) (rest : Argv) : InlineCommandMatch :=
  match rest with
  | [] => ⟨none, none⟩
  | value :: _ => ⟨nonBlank value, some index⟩

def findInlineCommand (flags : List String) (allowCombinedC : Bool) : ℕ → Argv → InlineCommandMatch
  | _, [] => ⟨none, none⟩
  | index, arg :: rest =>
    let token := trim arg
    let lower := host.normalizeLowercaseStringOrEmpty token
    if token = [] then findInlineCommand flags allowCombinedC (index + 1) rest
    else if lower = js "--" then ⟨none, none⟩
    else if isAnyOf lower flags then nextArgumentMatch (index + 1) rest
    else if allowCombinedC && isCombinedC token then
      let commandIndex := lower.findIdx (· == 0x63)
      match nonBlank (token.drop (commandIndex + 1)) with
      | some inline => ⟨some inline, some index⟩
      | none => nextArgumentMatch (index + 1) rest
    else findInlineCommand flags allowCombinedC (index + 1) rest

variable (argv : Argv)

def resolveInlineCommandMatch (flags : List String) (allowCombinedC : Bool) : InlineCommandMatch :=
  findInlineCommand host flags allowCombinedC 1 argv.tail

def extractPosixShellInlineCommand : Option JsString :=
  (resolveInlineCommandMatch host argv posixInlineCommandFlags true).command

def extractPowerShellInlineCommand : Option JsString :=
  (resolveInlineCommandMatch host argv powershellInlineCommandFlags false).command

def extractCmdInlineCommand : Option JsString :=
  match argv.dropWhile fun item =>
      !isAnyOf (host.normalizeLowercaseStringOrEmpty item) ["/c", "/k"] with
  | [] => none
  | _ :: tail => nonBlank (join (js " ") tail)

def extractShellWrapperPayload : ShellWrapperKind → Option JsString
  | .posix => extractPosixShellInlineCommand host argv
  | .cmd => extractCmdInlineCommand host argv
  | .powershell => extractPowerShellInlineCommand host argv

/-- The command behind the wrappers; `depth` is the number of wrappers that may
still be unwrapped. -/
def resolveShellWrapperCandidate : ℕ → Argv → Option (Argv × JsString)
  | depth, argv =>
    match firstToken argv with
    | none => none
    | some token0 =>
      match unwrapKnownDispatchWrapperInvocation host argv with
      | .blocked _ => none
      | .unwrapped _ wrapped =>
        match depth with
        | 0 => none
        | depth + 1 => resolveShellWrapperCandidate depth wrapped
      | .notWrapper =>
        match unwrapKnownShellMultiplexerInvocation host argv with
        | .blocked _ => none
        | .unwrapped _ wrapped =>
          match depth with
          | 0 => none
          | depth + 1 => resolveShellWrapperCandidate depth wrapped
        | .notWrapper => some (argv, token0)

def resolveShellWrapperSpecAndArgv : Option (Argv × ShellWrapperKind × JsString) :=
  (resolveShellWrapperCandidate host maxDispatchWrapperDepth argv).bind fun (candidate, token0) =>
      (findShellWrapperSpec (normalizeExecutableToken host token0)).bind fun wrapper =>
          (extractShellWrapperPayload host candidate wrapper).map fun payload =>
            (candidate, wrapper, payload)

def extractShellWrapperInlineCommand : Option JsString :=
  (resolveShellWrapperSpecAndArgv host argv).map fun resolved => resolved.2.2

end LittleBaby.Exec
