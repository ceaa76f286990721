import LittleBaby.ExecPaths

/-!
# Splitting a shell command

A command is split at `&&`, `||` and `;` first, and each part at `|` then.  Both
scanners walk over the code units with their neighbours in view; `skip` counts
the units that a branch has already consumed.
-/

namespace LittleBaby.Exec

open JsString

variable (unit : UInt16)

def isNewline : Bool := unit == 0x0A || unit == 0x0D

def isDoubleQuoteEscape : Bool := unit ∈ ([0x5C, 0x22, 0x24, 0x60] : List UInt16)

/-- `source[index]` with the unit before it. -/
def isShellCommentStart (previous : Option UInt16) (unit : UInt16) : Bool :=
  unit == 0x23 && previous.all isSpace

inductive Quoting where
  | plain
  | escaped
  | single
  | double
  deriving DecidableEq

/-- `&&`, `||` and `;`. -/
inductive ShellChainOperator where
  | and
  | or
  | sequence
  deriving DecidableEq

structure ShellChainPart where
  part : JsString
  opToNext : Option ShellChainOperator

structure ChainScan where
  quoting : Quoting
  skip : ℕ
  stopped : Bool
  buf : JsString
  parts : List ShellChainPart
  foundChain : Bool
  invalidChain : Bool

namespace ChainScan

def start : ChainScan where
  quoting := .plain
  skip := 0
  stopped := false
  buf := []
  parts := []
  foundChain := false
  invalidChain := false

variable (scan : ChainScan)

def pushPart (opToNext : ShellChainOperator) : ChainScan :=
  let trimmed := trim scan.buf
  if trimmed = [] then
    { scan with buf := [], foundChain := true, invalidChain := true }
  else
    { scan with
      buf := []
      parts := scan.parts ++ [⟨trimmed, some opToNext⟩]
      foundChain := true }

def push (unit : UInt16) (quoting : Quoting) : ChainScan :=
  { scan with buf := scan.buf ++ [unit], quoting := quoting }

/-- One pass of the loop, at `unit` with the unit before it and after it. -/
def step (previous : Option UInt16) (unit : UInt16) (next : Option UInt16) : ChainScan :=
  if scan.stopped then scan
  else if 0 < scan.skip then { scan with skip := scan.skip - 1 }
  else
    match scan.quoting with
    | .escaped => scan.push unit .plain
    | .single => scan.push unit (if unit = 0x27 then .plain else .single)
    | .double =>
      if unit = backslash ∧ next.any isNewline then
        { scan with invalidChain := true, stopped := true }
      else if unit = backslash ∧ next.any isDoubleQuoteEscape then
        { scan with
          buf := scan.buf ++ unit :: next.toList
          skip := 1 }
      else scan.push unit (if unit = 0x22 then .plain else .double)
    | .plain =>
      if unit = backslash then scan.push unit .escaped
      else if unit = 0x27 then scan.push unit .single
      else if unit = 0x22 then scan.push unit .double
      else if isShellCommentStart previous unit then
        { scan with stopped := true }
      else if unit = 0x26 ∧ next = some 0x26 then
        { scan.pushPart .and with skip := 1 }
      else if unit = 0x7C ∧ next = some 0x7C then
        { scan.pushPart .or with skip := 1 }
      else if unit = 0x3B then scan.pushPart .sequence
      else scan.push unit .plain

def run (scan : ChainScan) (previous : Option UInt16) : JsString → ChainScan
  | [] => scan
  | unit :: rest => (scan.step previous unit rest.head?).run (some unit) rest

end ChainScan

variable (command : JsString)

def splitCommandChainWithOperators : Option (List ShellChainPart) :=
  let scan := ChainScan.start.run none command
  if !scan.foundChain then none
  else
    let trimmed := trim scan.buf
    if trimmed = [] then none
    else if scan.invalidChain then none
    else some (scan.parts ++ [⟨trimmed, none⟩])

def splitCommandChain : Option (List JsString) :=
  (splitCommandChainWithOperators command).map fun parts =>
    parts.map ShellChainPart.part

structure HeredocSpec where
  delimiter : JsString
  stripTabs : Bool
  quoted : Bool

def scanQuotedDelimiter (quote : UInt16) : JsString → ℕ → JsString → Option (JsString × ℕ)
  | _, _, [] => none
  | delimiter, taken, unit :: rest =>
    if isNewline unit then none
    else if quote = 0x22 ∧ unit = backslash then
      match rest with
      | [] =>
        -- a trailing backslash is taken as it is, and the quote stays open
        none
      | next :: rest =>
        scanQuotedDelimiter quote (delimiter ++ [next]) (taken + 2) rest
    else if unit = quote then some (delimiter, taken + 1)
    else scanQuotedDelimiter quote (delimiter ++ [unit]) (taken + 1) rest

/-- The units `|`, `&`, `;`, `<` and `>`, and white space. -/
def endsDelimiter : Bool := isSpace unit || unit ∈ ([0x7C, 0x26, 0x3B, 0x3C, 0x3E] : List UInt16)

def parseHeredocDelimiter (source : JsString) : Option (JsString × ℕ × Bool) :=
  let blanks := source.takeWhile fun unit => unit == 0x20 || unit == 0x09
  match source.drop blanks.length with
  | [] => none
  | first :: rest =>
    if first = 0x27 ∨ first = 0x22 then
      (scanQuotedDelimiter first [] (blanks.length + 1) rest).map
        fun (delimiter, taken) => (delimiter, taken, true)
    else
      let delimiter := (first :: rest).takeWhile fun unit => !endsDelimiter unit
      if delimiter = [] then none
      else some (delimiter, blanks.length + delimiter.length, false)

/-- An unescaped backquote, `$(` or `${`; `slashes` counts the backslashes right
before the text. -/
def hasUnquotedHeredocExpansionToken (slashes : ℕ) : JsString → Bool
  | [] => false
  | unit :: rest =>
    if unit = backslash then hasUnquotedHeredocExpansionToken (slashes + 1) rest
    else
      (slashes % 2 == 0 && (unit == 0x60 || (unit == 0x24 &&
              rest.head?.any fun next => next == 0x28 || next == 0x7B))) ||
        hasUnquotedHeredocExpansionToken 0 rest

/-- The units `>`, `<`, the backquote, the newlines and the parentheses. -/
def isDisallowedPipelineToken : Bool :=
  unit ∈ ([0x3E, 0x3C, 0x60, 0x0A, 0x0D, 0x28, 0x29] : List UInt16)

structure PipelineScan where
  quoting : Quoting
  skip : ℕ
  stopped : Bool
  failure : Option JsString
  buf : JsString
  segments : List JsString
  emptySegment : Bool
  pendingHeredocs : List HeredocSpec
  inHeredocBody : Bool
  heredocLine : JsString

namespace PipelineScan

def start : PipelineScan where
  quoting := .plain
  skip := 0
  stopped := false
  failure := none
  buf := []
  segments := []
  emptySegment := false
  pendingHeredocs := []
  inHeredocBody := false
  heredocLine := []

variable (scan : PipelineScan)

def fail (reason : JsString) : PipelineScan := { scan with failure := some reason, stopped := true }

def unsupported (token : JsString) : PipelineScan :=
  scan.fail (js "unsupported shell token: " ++ token)

def pushPart : PipelineScan :=
  let trimmed := trim scan.buf
  { scan with
    buf := []
    segments := if trimmed = [] then scan.segments else scan.segments ++ [trimmed] }

def push (units : JsString) (quoting : Quoting) : PipelineScan :=
  { scan with
    buf := scan.buf ++ units
    quoting := quoting
    emptySegment := false }

def bodyLine (spec : HeredocSpec) : JsString :=
  if spec.stripTabs then scan.heredocLine.dropWhile (· == 0x09)
  else scan.heredocLine

def newlineSkip (unit : UInt16) (next : Option UInt16) : ℕ :=
  if unit = 0x0D ∧ next = some 0x0A then 1 else 0

def endBodyLine (unit : UInt16) (next : Option UInt16) : PipelineScan :=
  match scan.pendingHeredocs with
  | [] =>
    { scan with
      heredocLine := []
      inHeredocBody := false
      skip := newlineSkip unit next }
  | current :: others =>
    if scan.bodyLine current = current.delimiter then
      { scan with
        pendingHeredocs := others
        heredocLine := []
        inHeredocBody := !others.isEmpty
        skip := newlineSkip unit next }
    else if !current.quoted && hasUnquotedHeredocExpansionToken 0 scan.heredocLine then
      scan.fail (js "command substitution in unquoted heredoc")
    else
      { scan with heredocLine := [], skip := newlineSkip unit next }

def beginHeredoc (rest : JsString) : PipelineScan :=
  let source := rest.drop 1
  let stripTabs := source.head? = some 0x2D
  let marker := if stripTabs then js "<<-" else js "<<"
  let source := if stripTabs then source.drop 1 else source
  match parseHeredocDelimiter source with
  | some (delimiter, taken, quoted) =>
    { scan.push (marker ++ source.take taken) .plain with
      pendingHeredocs := scan.pendingHeredocs ++ [⟨delimiter, stripTabs, quoted⟩]
      skip := marker.length - 1 + taken }
  | none => { scan.push marker .plain with skip := 1 }

/-- One pass of the loop, at `unit` with the unit before it and the text after
it. -/
def step (previous : Option UInt16) (unit : UInt16) (rest : JsString) : PipelineScan :=
  let next := rest.head?
  if scan.stopped then scan
  else if 0 < scan.skip then { scan with skip := scan.skip - 1 }
  else if scan.inHeredocBody then
    if isNewline unit then scan.endBodyLine unit next
    else { scan with heredocLine := scan.heredocLine ++ [unit] }
  else
    match scan.quoting with
    | .escaped => scan.push [unit] .plain
    | .single => scan.push [unit] (if unit = 0x27 then .plain else .single)
    | .double =>
      if unit = backslash ∧ next.any isNewline then
        scan.unsupported (js "newline")
      else if unit = backslash ∧ next.any isDoubleQuoteEscape then
        { scan.push (unit :: next.toList) .double with skip := 1 }
      else if unit = 0x24 ∧ next = some 0x28 then scan.unsupported (js "$()")
      else if unit = 0x60 then scan.unsupported [unit]
      else if isNewline unit then scan.unsupported (js "newline")
      else scan.push [unit] (if unit = 0x22 then .plain else .double)
    | .plain =>
      if unit = backslash then scan.push [unit] .escaped
      else if unit = 0x27 then scan.push [unit] .single
      else if unit = 0x22 then scan.push [unit] .double
      else if isShellCommentStart previous unit then
        { scan with stopped := true }
      else if isNewline unit ∧ scan.pendingHeredocs ≠ [] then
        { scan with
          inHeredocBody := true
          heredocLine := []
          skip := newlineSkip unit next }
      else if unit = 0x7C ∧ next = some 0x7C then scan.unsupported (js "||")
      else if unit = 0x7C ∧ next = some 0x26 then scan.unsupported (js "|&")
      else if unit = 0x7C then { scan.pushPart with emptySegment := true }
      else if unit = 0x26 ∨ unit = 0x3B then scan.unsupported [unit]
      else if unit = 0x3C ∧ next = some 0x3C then scan.beginHeredoc rest
      else if isDisallowedPipelineToken unit then scan.unsupported [unit]
      else if unit = 0x24 ∧ next = some 0x28 then scan.unsupported (js "$()")
      else scan.push [unit] .plain

def run (scan : PipelineScan) (previous : Option UInt16) : JsString → PipelineScan
  | [] => scan
  | unit :: rest => (scan.step previous unit rest).run (some unit) rest

def endOfText : PipelineScan :=
  match scan.pendingHeredocs with
  | [] => scan
  | current :: others =>
    if scan.inHeredocBody ∧ scan.bodyLine current = current.delimiter then
      { scan with
        pendingHeredocs := others
        inHeredocBody := !others.isEmpty }
    else scan

end PipelineScan

def splitShellPipeline : Except JsString (List JsString) :=
  let scan := (PipelineScan.start.run none command).endOfText
  match scan.failure with
  | some reason => .error reason
  | none =>
    if scan.pendingHeredocs ≠ [] ∨ scan.inHeredocBody then
      .error (js "unterminated heredoc")
    else if scan.quoting ≠ .plain then
      .error (js "unterminated shell quote/escape")
    else
      let scan := scan.pushPart
      if scan.segments = [] then .error (js "empty command")
      else if scan.emptySegment then .error (js "empty pipeline segment")
      else .ok scan.segments

/-- The scan of `splitShellArgs`.  A word is kept once it is not empty. -/
structure ArgsScan where
  quoting : Quoting
  skip : ℕ
  stopped : Bool
  buf : JsString
  tokens : List JsString

namespace ArgsScan

def start : ArgsScan := ⟨.plain, 0, false, [], []⟩

variable (scan : ArgsScan)

def pushToken : ArgsScan :=
  if scan.buf = [] then scan
  else { scan with buf := [], tokens := scan.tokens ++ [scan.buf] }

def push (units : JsString) (quoting : Quoting) : ArgsScan :=
  { scan with buf := scan.buf ++ units, quoting := quoting }

def step (unit : UInt16) (next : Option UInt16) : ArgsScan :=
  if scan.stopped then scan
  else if 0 < scan.skip then { scan with skip := scan.skip - 1 }
  else
    match scan.quoting with
    | .escaped => scan.push [unit] .plain
    | .single =>
      if unit = 0x27 then { scan with quoting := .plain }
      else scan.push [unit] .single
    | .double =>
      if unit = backslash ∧ next.any (fun next => isDoubleQuoteEscape next || isNewline next) then
        { scan.push next.toList .double with skip := 1 }
      else if unit = 0x22 then { scan with quoting := .plain }
      else scan.push [unit] .double
    | .plain =>
      if unit = backslash then { scan with quoting := .escaped }
      else if unit = 0x27 then { scan with quoting := .single }
      else if unit = 0x22 then { scan with quoting := .double }
      else if unit = 0x23 ∧ scan.buf = [] then { scan with stopped := true }
      else if isSpace unit then scan.pushToken
      else scan.push [unit] .plain

def run (scan : ArgsScan) : JsString → ArgsScan
  | [] => scan
  | unit :: rest => (scan.step unit rest.head?).run rest

end ArgsScan

def splitShellArgs (raw : JsString) : Option (List JsString) :=
  let scan := ArgsScan.start.run raw
  if scan.quoting ≠ .plain then none else some scan.pushToken.tokens

end LittleBaby.Exec
