import LittleBaby.ExecAnalysis
import LittleBaby.ExecInlineFlags

/-!
# The allowlist

Each segment of a command is satisfied by an entry of the allowlist, as a safe
executable or as one of a skill.
-/

namespace LittleBaby.Exec

open JsString

structure ExecAllowlistEntry where
  pattern : JsString
  argPattern : Option JsString

structure SkillBinTrustEntry where
  name : JsString
  resolvedPath : JsString

inductive ExecSegmentSatisfiedBy where
  | allowlist
  | safeBins
  | skills
  | skillPrelude
  deriving DecidableEq

/-- The host, with the patterns and the tables that the policy consults.
`validateSafeBinArgv` is missing for a name without a profile. -/
structure PolicyHost extends Host where
  stripWindowsShellWrapper : JsString → JsString
  matchesExecAllowlistPattern : JsString → JsString → Bool
  matchArgPattern : JsString → Argv → Option JsString → Bool
  isTrustedSafeBinPath : JsString → Bool
  validateSafeBinArgv : JsString → Option (Argv → Bool)

structure ExecAllowlistContext where
  allowlist : List ExecAllowlistEntry
  safeBins : List JsString
  cwd : Option JsString
  platform : Option JsString
  skillBins : List SkillBinTrustEntry
  autoAllowSkills : Bool

variable (host : PolicyHost) (context : ExecAllowlistContext)

def matchEntries (useArgPattern : Bool) (path : JsString) (argv : Option Argv)
    (platform : Option JsString) :
    Option ExecAllowlistEntry → List ExecAllowlistEntry → Option ExecAllowlistEntry
  | pathOnlyMatch, [] => pathOnlyMatch
  | pathOnlyMatch, entry :: rest =>
    let pattern := trim entry.pattern
    let hasPath := hasPathSeparator pattern || pattern.contains 0x7E
    if pattern = [] ∨ !hasPath ∨ !host.matchesExecAllowlistPattern pattern path then
      matchEntries useArgPattern path argv platform pathOnlyMatch rest
    else if !useArgPattern then some entry
    else
      match entry.argPattern.filter (· ≠ []) with
      | none =>
        matchEntries useArgPattern path argv platform (pathOnlyMatch.or (some entry)) rest
      | some argPattern =>
        if argv.any fun argv => host.matchArgPattern argPattern argv platform
        then some entry
        else matchEntries useArgPattern path argv platform pathOnlyMatch rest

def matchAllowlist (entries : List ExecAllowlistEntry)
    (resolution : Option ExecutableResolution) (argv : Option Argv)
    (platform : Option JsString) : Option ExecAllowlistEntry :=
  match resolution with
  | none => none
  | some resolution =>
    match entries.find? fun entry =>
        trim entry.pattern == js "*" && (entry.argPattern.filter (· ≠ [])).isNone with
    | some bareWild => some bareWild
    | none =>
      match resolution.resolvedPath with
      | none => none
      | some path =>
        matchEntries host (isWindowsPlatform host.toHost (some (platform.getD host.platform)))
          path argv platform none entries

def isSafeBinUsage (argv : Argv) (resolution : Option ExecutableResolution) :
    Bool :=
  if isWindowsPlatform host.toHost (some (context.platform.getD host.platform)) then
    false
  else
    match resolution with
    | none => false
    | some resolution =>
      let execName := host.normalizeLowercaseStringOrEmpty resolution.executableName
      match resolution.resolvedPath, host.validateSafeBinArgv execName with
      | some path, some validate =>
        execName ≠ [] && context.safeBins.contains execName &&
          host.isTrustedSafeBinPath path && validate argv.tail
      | _, _ => false

def normalizeSkillBinName (value : JsString) : Option JsString :=
  (nonBlank value).map host.toLowerCase

def normalizeSkillBinResolvedPath (value : JsString) : Option JsString :=
  (nonBlank value).map fun trimmed => resolvePath host.toHost host.cwd trimmed

def buildSkillBinTrustIndex (entries : List SkillBinTrustEntry) : List (JsString × JsString) :=
  entries.filterMap fun entry =>
    (normalizeSkillBinName host entry.name).bind fun name =>
      (normalizeSkillBinResolvedPath host entry.resolvedPath).map fun path =>
        (name, path)

variable (segment : ExecCommandSegment)

def executionOf : Option ExecutableResolution := segment.resolution.map CommandResolution.execution

def isSkillAutoAllowedSegment (skillBinTrust : List (JsString × JsString)) : Bool :=
  match executionOf segment with
  | none => false
  | some execution =>
    match execution.resolvedPath with
    | none => false
    | some path =>
      let rawExecutable := trim execution.rawExecutable
      if rawExecutable = [] ∨ hasPathSeparator rawExecutable then false
      else
        match normalizeSkillBinName host execution.executableName,
            normalizeSkillBinResolvedPath host path with
        | some name, some resolvedPath =>
          skillBinTrust.contains (name, resolvedPath)
        | _, _ => false

/-! ## The text of a skill -/

def resolveSkillPreludePath (rawPath : JsString) : JsString :=
  resolvePath host.toHost (baseDir host.toHost context.cwd)
    (expandHomePrefix host.processHome rawPath)

variable (segments : List ExecCommandSegment) (filePath : JsString)

def skillPathParts : Option (List JsString) :=
  let lower := host.normalizeLowercaseStringOrEmpty
    (filePath.map fun unit => if unit = backslash then slash else unit)
  if (js "/skill.md").isSuffixOf lower then
    some ((lower.splitOn slash).filter (· ≠ []))
  else none

def isSkillMarkdownPreludePath : Bool :=
  match skillPathParts host filePath with
  | none => false
  | some parts =>
    (List.range (parts.length - 1)).any fun index =>
      parts[index]? == some (js "skills") &&
        (parts.length - index - 1 == 1 || parts.length - index - 1 == 2)

def resolveSkillMarkdownPreludeId : Option JsString :=
  match skillPathParts host filePath with
  | none => none
  | some parts =>
    match (List.range (parts.length - 1)).reverse.find? fun index =>
        parts[index]? == some (js "skills") && parts.length - index - 1 == 2 with
    | none => none
    | some index => parts[index + 1]?.bind nonBlank

def executionNameIs (name : String) : Bool :=
  (executionOf segment).any fun execution =>
    host.normalizeLowercaseStringOrEmpty execution.executableName == js name

/-- The path that `cat` shows, when it is the text of a skill. -/
def skillPreludeReadPath : Option JsString :=
  if !executionNameIs host segment "cat" then none
  else
    match segment.argv with
    | [_, rawPath] =>
      (nonBlank rawPath).bind fun rawPath =>
        let path := resolveSkillPreludePath host context rawPath
        if isSkillMarkdownPreludePath host path then some path else none
    | _ => none

def isSkillPreludeMarkerSegment : Bool :=
  executionNameIs host segment "printf" && match segment.argv with
    | [_, marker] =>
      marker == js "\\n---CMD---\\n" || marker == js "\n---CMD---\n"
    | _ => false

def isSkillPreludeSegment : Bool :=
  (skillPreludeReadPath host context segment).isSome || isSkillPreludeMarkerSegment host segment

def isSkillPreludeOnlyEvaluation : Bool :=
  !segments.isEmpty && segments.all (isSkillPreludeSegment host context)

def resolveSkillPreludeIds : List JsString :=
  segments.filterMap fun segment =>
    (skillPreludeReadPath host context segment).bind (resolveSkillMarkdownPreludeId host)

def wrapperSuffix : JsString := js "-wrapper"

def resolveAllowlistedSkillWrapperId : Option JsString :=
  let executableName := normalizeExecutableToken host.toHost (match executionOf segment with
      | some execution => execution.executableName
      | none => segment.argv.headD [])
  if wrapperSuffix.isSuffixOf executableName then
    nonBlank (executableName.take (executableName.length - wrapperSuffix.length))
  else none

/-! ## Arguments of a shell -/

def shellWords (text : JsString) : List JsString :=
  (text.splitOnP fun unit => isSpace unit && !isNewline unit).filter (· ≠ [])

def quoted (word : String) : List JsString := [js word, js ("\"" ++ word ++ "\"")]

def positionalZeroWords : List JsString := quoted "$0" ++ quoted "$\x7b0\x7d"

def positionalArgWords : List JsString :=
  ["@", "*", "1", "2", "3", "4", "5", "6", "7", "8", "9"].flatMap fun name =>
    quoted ("$" ++ name) ++ quoted ("$\x7b" ++ name ++ "\x7d")

/-- `$0` with some of its arguments, perhaps after `exec`. -/
def isDirectShellPositionalCarrierInvocation (command : JsString) : Bool :=
  let words := shellWords (trim command)
  let carried :=
    if words.head? = some (js "exec") then
      if words.tail.head? = some (js "--") then words.tail.tail else words.tail
    else words
  match carried with
  | [] => false
  | zero :: args =>
    positionalZeroWords.contains zero && args.all fun arg => positionalArgWords.contains arg

def hasSegmentExecutableMatch (predicate : JsString → Bool) : Bool :=
  let candidates := (match executionOf segment with
    | some execution => [execution.executableName, execution.rawExecutable]
    | none => []) ++ segment.argv.head?.toList
  candidates.any fun candidate => (nonBlank candidate).any predicate

def isShellWrapperSegment : Bool :=
  hasSegmentExecutableMatch segment (isShellWrapperExecutable host.toHost)

def hasDisqualifyingShellWrapperScriptOption (token : JsString) : Bool :=
  ["--rcfile", "--init-file", "--startup-file"].any fun option =>
    token == js option || (js (option ++ "=")).isPrefixOf token

def powershellOptionsWithValue : List String :=
  ["executionpolicy", "ep", "windowstyle", "w", "workingdirectory", "wd",
    "inputformat", "outputformat", "settingsfile", "configurationfile",
    "version", "v", "psconsolefile", "pscf", "encodedcommand", "en", "enc",
    "encodedarguments", "ea"]

def foldCase (text : JsString) : JsString :=
  text.map fun unit => if 0x41 ≤ unit ∧ unit ≤ 0x5A then unit + 0x20 else unit

/-- `/^-[^-]*s[^-]*$/i`. -/
def isCombinedS (token : JsString) : Bool :=
  token.head? = some 0x2D && !token.tail.contains 0x2D &&
    token.tail.any fun unit => unit == 0x73 || unit == 0x53

/-- The script among the arguments of a shell; `isValue` says that the argument
is the value of an option. -/
def findScriptToken (isPowerShell : Bool) : Bool → Argv → Option JsString
  | _, [] => none
  | true, _ :: rest => findScriptToken isPowerShell false rest
  | false, arg :: rest =>
    let token := trim arg
    if token = [] then findScriptToken isPowerShell false rest
    else if token = js "--" then rest.head?.bind nonBlank
    else if isAnyOf token ["-c", "--command"] then none
    else if !isPowerShell && isCombinedC token then none
    else if token = js "-s" ∨ (!isPowerShell && isCombinedS token) = true then none
    else if hasDisqualifyingShellWrapperScriptOption token then none
    else if isAnyOf token ["-c", "--command", "-o", "-O", "+O"] then
      findScriptToken isPowerShell true rest
    else if isPowerShell && token.head? == some 0x2D &&
        isAnyOf (foldCase token.tail) powershellOptionsWithValue then
      findScriptToken isPowerShell true rest
    else if token.head? = some 0x2D ∨ token.head? = some 0x2B then
      findScriptToken isPowerShell false rest
    else some token

def resolveShellWrapperScriptCandidatePath : Option JsString :=
  if !isShellWrapperSegment host segment then none
  else
    let wrapperName := normalizeExecutableToken host.toHost (segment.argv.headD [])
    (findScriptToken (isAnyOf wrapperName powershellWrapperNames) false
      segment.argv.tail).map fun scriptToken =>
        if isAbsolute scriptToken then scriptToken
        else
          resolvePath host.toHost (match context.cwd with
              | some cwd => if trim cwd = [] then host.cwd else cwd
              | none => host.cwd)
            (expandHomePrefix host.processHome scriptToken)

def resolveShellWrapperPositionalArgvCandidatePath : Option JsString :=
  let argv := segment.argv
  let wrapper := normalizeExecutableToken host.toHost (argv.headD [])
  if !isShellWrapperSegment host segment || argv.length < 4 ||
      !isAnyOf wrapper posixShellWrapperNames then none
  else
    let inlineMatch := resolveInlineCommandMatch host.toHost argv posixInlineCommandFlags true
    match inlineMatch.valueTokenIndex, inlineMatch.command with
    | some index, some command =>
      if !isDirectShellPositionalCarrierInvocation command then none
      else
        ((argv.drop (index + 1)).findSome? nonBlank).bind fun carried =>
          let carriedName := normalizeExecutableToken host.toHost carried
          if isDispatchWrapperExecutable host.toHost carriedName ||
              isShellWrapperExecutable host.toHost carriedName then none
          else
            (resolveCommandResolutionFromArgv host.toHost [carried]
              context.cwd).bind fun resolution =>
                resolveExecutableCandidatePathFromResolution host.toHost
                  resolution.execution context.cwd
    | _, _ => none

def resolveShellWrapperScriptArgv (shellScriptCandidatePath : JsString)
    (effectiveArgv : Argv) : Argv :=
  let scriptBase := host.normalizeLowercaseStringOrEmpty (basename shellScriptCandidatePath)
  let resolveArgPath (arg : JsString) :=
    if isAbsolute arg then arg
    else resolvePath host.toHost (baseDir host.toHost context.cwd) arg
  let byPath :=
    effectiveArgv.dropWhile fun arg =>
      resolveArgPath arg != shellScriptCandidatePath
  let found :=
    if byPath ≠ [] then byPath
    else
      effectiveArgv.dropWhile fun arg =>
        host.normalizeLowercaseStringOrEmpty (basename arg) != scriptBase
  shellScriptCandidatePath :: found.tail

structure SegmentMatchEvaluation where
  effectiveArgv : Argv
  inlineCommand : Option JsString
  found : Option ExecAllowlistEntry

def effectiveArgvOf : Argv :=
  match segment.resolution with
  | some resolution =>
    if resolution.effectiveArgv ≠ [] then resolution.effectiveArgv
    else segment.argv
  | none => segment.argv

def pathResolution (path : JsString) : ExecutableResolution := ⟨path, some path, basename path⟩

def resolveSegmentAllowlistMatch (segment : ExecCommandSegment) :
    SegmentMatchEvaluation :=
  let effectiveArgv := effectiveArgvOf segment
  let allowlistSegment := { segment with argv := effectiveArgv }
  let candidateResolution :=
    segment.resolution.map fun resolution =>
      match resolveExecutableCandidatePathFromResolution host.toHost
          resolution.policy context.cwd with
      | some path => { resolution.policy with resolvedPath := some path }
      | none => resolution.policy
  let inlineCommand := extractShellWrapperInlineCommand host.toHost effectiveArgv
  let executableMatch :=
    if inlineCommand.any isDirectShellPositionalCarrierInvocation then none
    else
      matchAllowlist host context.allowlist candidateResolution
        (some effectiveArgv) context.platform
  let shellPositionalArgvMatch :=
    (resolveShellWrapperPositionalArgvCandidatePath host context allowlistSegment).bind fun path =>
        matchAllowlist host context.allowlist (some (pathResolution path)) none context.platform
  let shellScriptMatch :=
    if inlineCommand.isSome then none
    else
      (resolveShellWrapperScriptCandidatePath host context allowlistSegment).bind fun path =>
          matchAllowlist host context.allowlist (some (pathResolution path))
            (some (resolveShellWrapperScriptArgv host context path effectiveArgv))
            context.platform
  { effectiveArgv := effectiveArgv
    inlineCommand := inlineCommand
    found := executableMatch.or (shellPositionalArgvMatch.or shellScriptMatch) }

def resolveSegmentSatisfaction (found : Option ExecAllowlistEntry)
    (segment : ExecCommandSegment) (effectiveArgv : Argv) :
    Option ExecSegmentSatisfiedBy :=
  let skillBinTrust := buildSkillBinTrustIndex host context.skillBins
  if found.isSome then some .allowlist
  else if isSafeBinUsage host context effectiveArgv (executionOf segment) then
    some .safeBins
  else if context.autoAllowSkills && !skillBinTrust.isEmpty &&
      isSkillAutoAllowedSegment host segment skillBinTrust then some .skills
  else none

/-! ## Segments -/

structure SegmentsEvaluation where
  satisfied : Bool
  found : List ExecAllowlistEntry
  segmentAllowlistEntries : List (Option ExecAllowlistEntry)
  segmentSatisfiedBy : List (Option ExecSegmentSatisfiedBy)

def SegmentsEvaluation.cons (found : List ExecAllowlistEntry)
    (entry : Option ExecAllowlistEntry) (by_ : Option ExecSegmentSatisfiedBy)
    (rest : SegmentsEvaluation) : SegmentsEvaluation :=
  if by_.isNone then ⟨false, found, [entry], [by_]⟩
  else
    { satisfied := rest.satisfied
      found := found ++ rest.found
      segmentAllowlistEntries := entry :: rest.segmentAllowlistEntries
      segmentSatisfiedBy := by_ :: rest.segmentSatisfiedBy }

/-- `evaluateSegments`, where `inlineChain` evaluates the parts of a command
that a shell carries. -/
def evaluateSegments (inlineChain : List JsString → Option (List ExecAllowlistEntry)) :
    List ExecCommandSegment → SegmentsEvaluation
  | [] => ⟨true, [], [], []⟩
  | segment :: rest =>
    if segment.resolution.any CommandResolution.policyBlocked then
      ⟨false, [], [none], [none]⟩
    else
      let evaluation := resolveSegmentAllowlistMatch host context segment
      let by_ := resolveSegmentSatisfaction host context evaluation.found segment
        evaluation.effectiveArgv
      -- the parts of an inline command, where nothing else satisfies it
      let inlineResult :=
        if by_.isSome then none
        else
          ((evaluation.inlineCommand.bind splitCommandChain).filter
            fun parts => 1 < parts.length).bind inlineChain
      let others := evaluateSegments inlineChain rest
      match inlineResult with
      | some found =>
        others.cons (evaluation.found.toList ++ found) evaluation.found (some .allowlist)
      | none => others.cons evaluation.found.toList evaluation.found by_

def evaluateInlineParts (evaluate : List ExecCommandSegment → SegmentsEvaluation) :
    List JsString → Option (List ExecAllowlistEntry)
  | [] => some []
  | part :: rest =>
    match analyzeShellCommand host.toHost host.stripWindowsShellWrapper
        context.platform context.cwd part with
    | .error _ => none
    | .ok analysis =>
      let result := evaluate analysis.segments
      if !result.satisfied then none
      else
        (evaluateInlineParts evaluate rest).map fun found =>
          result.found ++ found

/-- `evaluateShellWrapperInlineChain`, with the number of shells that may still
be entered. -/
def evaluateShellWrapperInlineChain : ℕ → List JsString → Option (List ExecAllowlistEntry)
  | 0, _ => none
  | depth + 1, chainParts =>
    if isWindowsPlatform host.toHost context.platform then none
    else
      evaluateInlineParts host context (evaluateSegments host context
          (evaluateShellWrapperInlineChain depth)) chainParts

def maxShellWrapperInlineEvalDepth : ℕ := 3

/-- `evaluateSegments` of a command that no shell carries. -/
def evaluateTopSegments : SegmentsEvaluation :=
  evaluateSegments host context (evaluateShellWrapperInlineChain host context
      (maxShellWrapperInlineEvalDepth - 1)) segments

structure ExecAllowlistEvaluation where
  allowlistSatisfied : Bool
  allowlistMatches : List ExecAllowlistEntry
  segmentAllowlistEntries : List (Option ExecAllowlistEntry)
  segmentSatisfiedBy : List (Option ExecSegmentSatisfiedBy)

def evaluateGroups (hasChains : Bool) :
    ExecAllowlistEvaluation → List (List ExecCommandSegment) → ExecAllowlistEvaluation
  | done, [] => done
  | done, group :: rest =>
    let result := evaluateTopSegments host context group
    if !result.satisfied then
      if !hasChains then
        ⟨false, result.found, result.segmentAllowlistEntries, result.segmentSatisfiedBy⟩
      else ⟨false, [], [], []⟩
    else
      evaluateGroups hasChains ⟨true, done.allowlistMatches ++ result.found,
          done.segmentAllowlistEntries ++ result.segmentAllowlistEntries,
          done.segmentSatisfiedBy ++ result.segmentSatisfiedBy⟩ rest

def evaluateExecAllowlist (analysis : ExecCommandAnalysis) :
    ExecAllowlistEvaluation :=
  if analysis.segments = [] then ⟨false, [], [], []⟩
  else
    evaluateGroups host context analysis.chains.isSome ⟨true, [], [], []⟩
      (analysis.chains.getD [analysis.segments])

/-! ## A command -/

def resolveTrustedSkillExecutionIds (analysis : ExecCommandAnalysis)
    (evaluation : ExecAllowlistEvaluation) : List JsString :=
  if !evaluation.allowlistSatisfied then []
  else
    (analysis.segments.zip evaluation.segmentSatisfiedBy).filterMap fun (segment, by_) =>
        match by_ with
        | some .skills =>
          let executableName := normalizeExecutableToken host.toHost (match executionOf segment with
              | some execution => execution.executableName
              | none => segment.argv.headD [])
          if executableName = [] then none else some executableName
        | some .allowlist => resolveAllowlistedSkillWrapperId host segment
        | _ => none

structure ChainEvaluation where
  analysis : ExecCommandAnalysis
  evaluation : ExecAllowlistEvaluation
  opToNext : Option ShellChainOperator

def evaluateChainParts : List ShellChainPart → Option (List ChainEvaluation)
  | [] => some []
  | part :: rest =>
    match analyzeShellCommand host.toHost host.stripWindowsShellWrapper
        context.platform context.cwd part.part with
    | .error _ => none
    | .ok analysis =>
      (evaluateChainParts rest).map fun others =>
        ⟨analysis, evaluateExecAllowlist host context analysis, part.opToNext⟩ :: others

namespace ChainEvaluation

variable (part : ChainEvaluation)

def trustedSkillIds : List JsString :=
  resolveTrustedSkillExecutionIds host part.analysis part.evaluation

def isPreludeOnly : Bool :=
  !part.evaluation.allowlistSatisfied &&
    isSkillPreludeOnlyEvaluation host context part.analysis.segments

def preludeSkillIds : List JsString := resolveSkillPreludeIds host context part.analysis.segments

def isServedBy (reachableSkillIds : List JsString) : Bool :=
  let preludeSkillIds := part.preludeSkillIds host context
  if preludeSkillIds.isEmpty then !reachableSkillIds.isEmpty
  else preludeSkillIds.any fun skillId => reachableSkillIds.contains skillId

end ChainEvaluation

def preludePass : List ChainEvaluation → List Bool × List JsString
  | [] => ([], [])
  | part :: rest =>
    let (allowed, reachableSkillIds) := preludePass rest
    let trustedSkillIds := part.trustedSkillIds host
    if trustedSkillIds ≠ [] then
      (false :: allowed, trustedSkillIds ++ reachableSkillIds)
    else if part.isPreludeOnly host context ∧ part.opToNext = some .and ∧
        part.isServedBy host context reachableSkillIds then
      (true :: allowed, reachableSkillIds)
    else (false :: allowed, [])

structure ExecAllowlistAnalysis where
  analysisOk : Bool
  allowlistSatisfied : Bool
  allowlistMatches : List ExecAllowlistEntry
  segments : List ExecCommandSegment
  segmentAllowlistEntries : List (Option ExecAllowlistEntry)
  segmentSatisfiedBy : List (Option ExecSegmentSatisfiedBy)

def analysisFailure : ExecAllowlistAnalysis := ⟨false, false, [], [], [], []⟩

def collectParts : ExecAllowlistAnalysis → List (ChainEvaluation × Bool) → ExecAllowlistAnalysis
  | done, [] => { done with allowlistSatisfied := true }
  | done, (part, isPrelude) :: rest =>
    let segments := part.analysis.segments
    let done :=
      { done with
        allowlistMatches := done.allowlistMatches ++ part.evaluation.allowlistMatches
        segments := done.segments ++ segments
        segmentAllowlistEntries := done.segmentAllowlistEntries ++
          (if isPrelude then segments.map fun _ => none
            else part.evaluation.segmentAllowlistEntries)
        segmentSatisfiedBy := done.segmentSatisfiedBy ++
          (if isPrelude then segments.map fun _ => some .skillPrelude
            else part.evaluation.segmentSatisfiedBy) }
    if !part.evaluation.allowlistSatisfied && !isPrelude then
      { done with allowlistSatisfied := false }
    else collectParts done rest

/-- `/\\(?:\r\n|\n|\r)/`. -/
def hasShellLineContinuation : JsString → Bool
  | [] => false
  | unit :: rest =>
    (unit == backslash && rest.head?.any isNewline) || hasShellLineContinuation rest

/-- The parts that `evaluateShellAllowlist` splits a command into. -/
def chainPartsOf (command : JsString) : Option (List ShellChainPart) :=
  if isWindowsPlatform host.toHost context.platform then none
  else splitCommandChainWithOperators command

def evaluateShellAllowlist (command : JsString) : ExecAllowlistAnalysis :=
  if hasShellLineContinuation command then analysisFailure
  else
    match chainPartsOf host context command with
    | none =>
      match analyzeShellCommand host.toHost host.stripWindowsShellWrapper
          context.platform context.cwd command with
      | .error _ => analysisFailure
      | .ok analysis =>
        let evaluation := evaluateExecAllowlist host context analysis
        ⟨true, evaluation.allowlistSatisfied, evaluation.allowlistMatches,
          analysis.segments, evaluation.segmentAllowlistEntries,
          evaluation.segmentSatisfiedBy⟩
    | some chainParts =>
      match evaluateChainParts host context chainParts with
      | none => analysisFailure
      | some parts =>
        collectParts ⟨true, false, [], [], [], []⟩ (parts.zip (preludePass host context parts).1)

end LittleBaby.Exec
