import LittleBaby.JsString

/-!
# Texts and paths of a command

The host is a POSIX system: `path` is `path.posix`.  The names of executables are
read under both conventions, since a command may be meant for another platform.
-/

namespace LittleBaby.Exec

open JsString

/-- The units `/`, `\`, `:` and `.`. -/
def slash : UInt16 := 0x2F
def backslash : UInt16 := 0x5C
def colon : UInt16 := 0x3A
def dot : UInt16 := 0x2E

/-- What the process finds around it: the mapping of `toLowerCase` beyond the
basic letters, its platform and working directory, the home directories of its
own environment and of that of the command, the `PATH` of the latter, and the
executable files. -/
structure Host where
  lowerTable : UInt16 → JsString
  platform : JsString
  cwd : JsString
  processHome : Option JsString
  home : Option JsString
  pathEnv : JsString
  isExecutableFile : JsString → Bool

variable (host : Host)

namespace Host

def lowerUnit (unit : UInt16) : JsString :=
  if 0x41 ≤ unit ∧ unit ≤ 0x5A then [unit + 0x20]
  else if unit < 0x80 then [unit]
  else host.lowerTable unit

def toLowerCase (text : JsString) : JsString := text.flatMap host.lowerUnit

def normalizeLowercaseStringOrEmpty (text : JsString) : JsString := host.toLowerCase (trim text)

end Host

variable (path : JsString)

def isAbsolute : Bool := path.head? = some slash

def components (isSeparator : UInt16 → Bool) (path : JsString) : List JsString :=
  (path.splitOnP isSeparator).filter (· ≠ [])

def isSlash (unit : UInt16) : Bool := unit == slash

def basenameBy (isSeparator : UInt16 → Bool) (path : JsString) : JsString :=
  (components isSeparator path).getLastD []

def basename : JsString := basenameBy isSlash path

def isLetter (unit : UInt16) : Bool := (0x41 ≤ unit && unit ≤ 0x5A) || (0x61 ≤ unit && unit ≤ 0x7A)

def dropDrive : JsString → JsString
  | letter :: mark :: rest =>
    if isLetter letter && mark == colon then rest else letter :: mark :: rest
  | path => path

/-- `path.win32.basename`. -/
def win32Basename : JsString :=
  basenameBy (fun unit => unit == slash || unit == backslash) (dropDrive path)

/-- The components, the last one first, with a `..` carried out.  `aboveRoot`
keeps the `..` that lead out of the path. -/
def parentParts (aboveRoot : Bool) : List JsString → List JsString
  | [] => if aboveRoot then [js ".."] else []
  | last :: before =>
    if last = js ".." then js ".." :: last :: before else before

def normalizeParts (aboveRoot : Bool) : List JsString → List JsString → List JsString
  | done, [] => done.reverse
  | done, part :: rest =>
    if part = js "." then normalizeParts aboveRoot done rest
    else if part = js ".." then
      normalizeParts aboveRoot (parentParts aboveRoot done) rest
    else normalizeParts aboveRoot (part :: done) rest

def pathParts (aboveRoot : Bool) (path : JsString) : List JsString :=
  normalizeParts aboveRoot [] (components isSlash path)

def joinParts (parts : List JsString) : JsString := join [slash] parts

/-- `path.resolve(base, path)`. -/
def resolvePath (base path : JsString) : JsString :=
  let full :=
    if isAbsolute path then path
    else if isAbsolute base then base ++ slash :: path
    else host.cwd ++ slash :: base ++ slash :: path
  slash :: joinParts (pathParts false full)

def normalizePath (path : JsString) : JsString :=
  let parts := joinParts (pathParts (!isAbsolute path) path)
  let trailing := path.getLast? = some slash
  if isAbsolute path then
    if parts = [] then [slash]
    else slash :: parts ++ (if trailing then [slash] else [])
  else if parts = [] then (if trailing then js "./" else js ".")
  else parts ++ (if trailing then [slash] else [])

/-- `path.join(entry, name)`. -/
def joinPath (entry name : JsString) : JsString := normalizePath (entry ++ slash :: name)

def hasPathSeparator : Bool := path.contains slash || path.contains backslash

/-- `~` alone or before a separator stands for the home directory. -/
def expandHomePrefix (home : Option JsString) (input : JsString) : JsString :=
  match input, home with
  | 0x7E :: rest, some dir =>
    if rest.head?.all (fun unit => unit == slash || unit == backslash) then
      dir ++ rest
    else input
  | _, _ => input

/-- `cwd?.trim() || process.cwd()`. -/
def baseDir (cwd : Option JsString) : JsString := (cwd.bind nonBlank).getD host.cwd

def windowsExecutableSuffixes : List String := [".exe", ".cmd", ".bat", ".com"]

def stripWindowsExecutableSuffix (value : JsString) : JsString :=
  match windowsExecutableSuffixes.find? fun suffix =>
      (js suffix).isSuffixOf value with
  | some suffix => value.take (value.length - (js suffix).length)
  | none => value

def basenameLower (token : JsString) : JsString :=
  let win := win32Basename token
  let posix := basename token
  host.normalizeLowercaseStringOrEmpty (if win.length < posix.length then win else posix)

def normalizeExecutableToken (token : JsString) : JsString :=
  stripWindowsExecutableSuffix (basenameLower host token)

/-- `requirePathSeparator` is for a name that is not looked up in `PATH`. -/
def resolveExecutablePathCandidate (rawExecutable : JsString)
    (cwd : Option JsString) (requirePathSeparator : Bool) : Option JsString :=
  let expanded := expandHomePrefix host.home rawExecutable
  if !hasPathSeparator expanded then
    if requirePathSeparator then none else some expanded
  else if isAbsolute expanded then some expanded
  else some (resolvePath host (baseDir host cwd) expanded)

def resolveExecutableFromPathEnv (executable : JsString) : Option JsString :=
  (((host.pathEnv.splitOn colon).filter (· ≠ [])).map fun entry =>
    joinPath entry executable).find? host.isExecutableFile

def resolveExecutablePath (rawExecutable : JsString) (cwd : Option JsString) : Option JsString :=
  match resolveExecutablePathCandidate host rawExecutable cwd false with
  | none => none
  | some candidate =>
    if candidate = [] then none
    else if hasPathSeparator candidate then
      if host.isExecutableFile candidate then some candidate else none
    else resolveExecutableFromPathEnv host candidate

end LittleBaby.Exec
