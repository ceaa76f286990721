import LittleBaby.Entries
import LittleBaby.ExecPaths

/-!
# Arguments of safe bins

A safe bin may run without approval while it only reads its input.  Its profile
says which options take a value, and which are denied; all others are refused.
-/

namespace LittleBaby.SafeBins

open JsString Exec

def dash : UInt16 := 0x2D

/-- `text.startsWith("--")`. -/
def startsWithDashes (text : JsString) : Bool := (js "--").isPrefixOf text

inductive ExecArgvToken
  | empty
  | terminator
  | stdin
  | positional
  | long (flag : JsString) (inlineValue : Option JsString)
  | shortCluster (cluster : JsString)

def parseExecArgvToken (raw : JsString) : ExecArgvToken :=
  if raw = [] then .empty
  else if raw = js "--" then .terminator
  else if raw = js "-" then .stdin
  else if raw.head? ≠ some dash then .positional
  else if startsWithDashes raw then
    match raw.dropWhile (· ≠ 0x3D) with
    | [] => .long raw none
    | _ :: inlineValue => .long (raw.takeWhile (· ≠ 0x3D)) (some inlineValue)
  else .shortCluster raw.tail

structure SafeBinProfileFixture where
  minPositional : Option ℕ := none
  maxPositional : Option ℕ := none
  allowedValueFlags : List JsString := []
  deniedFlags : List JsString := []

structure SafeBinProfile where
  minPositional : Option ℕ
  maxPositional : Option ℕ
  allowedValueFlags : List JsString
  deniedFlags : List JsString
  knownLongFlags : List JsString
  longFlagPrefixMap : List (JsString × Option JsString)

/-- `known.add(flag)` for the long flags. -/
def addLongFlags (known flags : List JsString) : List JsString :=
  flags.foldl (fun known flag =>
    if startsWithDashes flag ∧ flag ∉ known then known ++ [flag] else known) known

def collectKnownLongFlags (allowedValueFlags deniedFlags : List JsString) : List JsString :=
  addLongFlags (addLongFlags [] allowedValueFlags) deniedFlags

def addFlagStart (flag : JsString) (prefixMap : List (JsString × Option JsString))
    (length : ℕ) : List (JsString × Option JsString) :=
  let start := flag.take length
  match prefixMap.lookup start with
  | none => Entries.set start (some flag) prefixMap
  | some existing =>
    if existing ≠ some flag then Entries.set start none prefixMap else prefixMap

def addFlagStarts (prefixMap : List (JsString × Option JsString)) (flag : JsString) :
    List (JsString × Option JsString) :=
  if !startsWithDashes flag || flag.length ≤ 2 then prefixMap
  else (List.range' 3 (flag.length - 2)).foldl (addFlagStart flag) prefixMap

def buildLongFlagPrefixMap (knownLongFlags : List JsString) : List (JsString × Option JsString) :=
  knownLongFlags.foldl addFlagStarts []

def compileSafeBinProfile (fixture : SafeBinProfileFixture) : SafeBinProfile :=
  let knownLongFlags := collectKnownLongFlags fixture.allowedValueFlags fixture.deniedFlags
  { minPositional := fixture.minPositional
    maxPositional := fixture.maxPositional
    allowedValueFlags := fixture.allowedValueFlags
    deniedFlags := fixture.deniedFlags
    knownLongFlags := knownLongFlags
    longFlagPrefixMap := buildLongFlagPrefixMap knownLongFlags }

/-- `/^[A-Za-z]:[\\/]/`. -/
def startsWithDrive (text : JsString) : Bool :=
  match text with
  | letter :: colon :: separator :: _ =>
    isLetter letter && colon == 0x3A && (separator == 0x5C || separator == 0x2F)
  | _ => false

variable (value : JsString)

def isPathLikeToken : Bool :=
  let trimmed := trim value
  if trimmed = [] then false
  else if trimmed = js "-" then false
  else if (js "./").isPrefixOf trimmed || (js "../").isPrefixOf trimmed ||
      (js "~").isPrefixOf trimmed then true
  else if (js "/").isPrefixOf trimmed then true
  else startsWithDrive trimmed

/-- `/[*?[\]]/`. -/
def isGlobUnit (unit : UInt16) : Bool :=
  unit == 0x2A || unit == 0x3F || unit == 0x5B || unit == 0x5D

def hasGlobToken : Bool := value.any isGlobUnit

def isSafeLiteralToken : Bool :=
  if value = [] ∨ value = js "-" then true
  else !hasGlobToken value && !isPathLikeToken value

def isInvalidValueToken (value : Option JsString) : Bool :=
  match value with
  | none => true
  | some value => value = [] || !isSafeLiteralToken value

variable (profile : SafeBinProfile)

def resolveCanonicalLongFlag (flag : JsString) : Option JsString :=
  if !startsWithDashes flag || flag.length ≤ 2 then none
  else if flag ∈ profile.knownLongFlags then some flag
  else (profile.longFlagPrefixMap.lookup flag).join

def consumeLongOptionToken (flag : JsString) (inlineValue : Option JsString)
    (rest : List JsString) : Option ℕ :=
  match resolveCanonicalLongFlag profile flag with
  | none => none
  | some canonicalFlag =>
    if canonicalFlag ∈ profile.deniedFlags then none
    else
      let expectsValue := canonicalFlag ∈ profile.allowedValueFlags
      match inlineValue with
      | some inlineValue =>
        if ¬expectsValue then none
        else if isSafeLiteralToken inlineValue then some 1 else none
      | none =>
        if ¬expectsValue then some 1
        else if isInvalidValueToken rest.head? then none else some 2

def consumeShortOptionClusterToken (rest : List JsString) : JsString → Option ℕ
  | [] => none
  | unit :: inlineValue =>
    let flag := [dash, unit]
    if flag ∈ profile.deniedFlags then none
    else if flag ∉ profile.allowedValueFlags then
      consumeShortOptionClusterToken rest inlineValue
    else if inlineValue ≠ [] then
      if isSafeLiteralToken inlineValue then some 1 else none
    else if isInvalidValueToken rest.head? then none else some 2

def consumePositionalToken (token : JsString) (positional : List JsString) :
    Option (List JsString) :=
  if isSafeLiteralToken token then some (positional ++ [token]) else none

def consumeRest (positional : List JsString) : List JsString → Option (List JsString)
  | [] => some positional
  | rest :: later =>
    if rest = [] ∨ rest = js "-" then consumeRest positional later
    else (consumePositionalToken rest positional).bind fun positional =>
      consumeRest positional later

def collectPositionalTokens (positional : List JsString) : List JsString → Option (List JsString)
  | [] => some positional
  | raw :: rest =>
    match parseExecArgvToken raw with
    | .empty | .stdin => collectPositionalTokens positional rest
    | .terminator => consumeRest positional rest
    | .positional =>
      match consumePositionalToken raw positional with
      | none => none
      | some positional => collectPositionalTokens positional rest
    | .long flag inlineValue =>
      match consumeLongOptionToken profile flag inlineValue rest with
      | none => none
      | some consumed => collectPositionalTokens positional (rest.drop (consumed - 1))
    | .shortCluster cluster =>
      match consumeShortOptionClusterToken profile rest cluster with
      | none => none
      | some consumed => collectPositionalTokens positional (rest.drop (consumed - 1))
  termination_by args => args.length
  decreasing_by
    all_goals simp only [List.length_cons, List.length_drop]
    all_goals omega

def validatePositionalCount (positional : List JsString) : Bool :=
  profile.minPositional.getD 0 ≤ positional.length &&
    profile.maxPositional.all (positional.length ≤ ·)

def isWordUnit (unit : UInt16) : Bool :=
  isLetter unit || (0x30 ≤ unit && unit ≤ 0x39) || unit == 0x5F

/-- `/(^|[^.$A-Za-z0-9_])env([^A-Za-z0-9_]|$)/`. -/
def namesEnvFilter (token : JsString) : Bool :=
  (List.range token.length).any fun index =>
    (js "env").isPrefixOf (token.drop index) && ((token.take index).getLast?.all fun unit =>
        !isWordUnit unit && unit != 0x2E && unit != 0x24) &&
      (token.drop (index + 3)).head?.all fun unit => !isWordUnit unit

/-- `/\$ENV\b/`. -/
def namesEnvVariable (token : JsString) : Bool :=
  (List.range token.length).any fun index =>
    (js "$ENV").isPrefixOf (token.drop index) &&
      (token.drop (index + 4)).head?.all fun unit => !isWordUnit unit

variable (host : Host)

def normalizeSafeBinName (raw : JsString) : JsString :=
  let tail := (raw.reverse.takeWhile fun unit => unit != 0x5C && unit != 0x2F).reverse
  match [".exe", ".cmd", ".bat", ".com"].find? fun suffix => (js suffix).isSuffixOf tail with
  | some suffix => tail.take (tail.length - (js suffix).length)
  | none => tail

def alwaysDenied : List String := ["awk", "gawk", "mawk", "nawk", "sed", "gsed"]

def validateSafeBinSemantics (binName : Option JsString) (positional : List JsString) :
    Bool :=
  match binName with
  | none => true
  | some binName =>
    let normalized := normalizeSafeBinName (host.normalizeLowercaseStringOrEmpty binName)
    if normalized = js "jq" then
      !positional.any fun token => namesEnvFilter token || namesEnvVariable token
    else !alwaysDenied.any fun name => js name == normalized

def validateSafeBinArgv (args : List JsString) (binName : Option JsString) : Bool :=
  match collectPositionalTokens profile [] args with
  | none => false
  | some positional =>
    validatePositionalCount profile positional && validateSafeBinSemantics host binName positional

end LittleBaby.SafeBins
