import LittleBaby.JsValue

/-!
# Which paths of a config are sensitive

A path is the keys down to a value, joined by dots, with `[]` for items and `*` in
a hint for any key.  A value is sensitive by the hints, by the pattern of its path,
or as a URL with credentials.
-/

namespace LittleBaby.Redact

open JsString JsValue

variable (path : JsString) (text : JsString)

def endsWith (suffix : String) : Bool := (js suffix).isSuffixOf text

/-- `text.slice(0, -2)`. -/
def dropLastTwo : JsString := text.take (text.length - 2)

/-- A letter of the basic alphabet in lower case, as a regular expression that
ignores case compares it. -/
def foldUnit (unit : UInt16) : UInt16 :=
  if 65 ≤ unit && unit ≤ 90 then unit + 32 else unit

/-- A code unit in lower case, as far as a comparison with a basic letter can
tell: the Kelvin sign becomes a `k`. -/
def lowerUnit (unit : UInt16) : UInt16 :=
  if unit = 0x212A then 107 else foldUnit unit

def normalizeLowercaseStringOrEmpty : JsString := (trim text).map lowerUnit

/-- `/^\$\{[^}]*\}$/` on the trimmed text. -/
def isEnvVarPlaceholder : Bool :=
  match trim text with
  | 36 :: 123 :: rest =>
    rest.getLast? = some 125 && !rest.dropLast.contains 125
  | _ => false

/-! ## Patterns of sensitive paths -/

def isLineTerminator (unit : UInt16) : Bool :=
  unit = 10 || unit = 13 || unit = 0x2028 || unit = 0x2029

/-- `/first.?second/` at the beginning of a text. -/
def startsWithPair (first second : String) (text : JsString) : Bool :=
  (js first).isPrefixOf text && match text.drop (js first).length with
    | [] => false
    | unit :: rest =>
      (js second).isPrefixOf (unit :: rest) || !isLineTerminator unit && (js second).isPrefixOf rest

def containsPair (first second : String) (text : JsString) : Bool :=
  text.tails.any (startsWithPair first second)

def sensitiveKeyWhitelistSuffixes : List String :=
  ["maxtokens", "maxoutputtokens", "maxinputtokens", "maxcompletiontokens",
    "contexttokens", "totaltokens", "tokencount", "tokenlimit", "tokenbudget",
    "passwordfile"]

def isWhitelistedSensitivePath : Bool :=
  sensitiveKeyWhitelistSuffixes.any fun suffix =>
    endsWith (normalizeLowercaseStringOrEmpty path) suffix

def matchesSensitivePattern : Bool :=
  let folded := path.map foldUnit
  endsWith folded "token" || includes folded (js "password") ||
    includes folded (js "secret") || containsPair "api" "key" folded ||
    containsPair "encrypt" "key" folded || containsPair "private" "key" folded ||
    endsWith folded "serviceaccount" || endsWith folded "serviceaccountref"

def isSensitiveConfigPath : Bool := !isWhitelistedSensitivePath path && matchesSensitivePattern path

def isSensitivePath : Bool :=
  if endsWith path "[]" then isSensitiveConfigPath (dropLastTwo path)
  else isSensitiveConfigPath path

def isWholeObjectSensitivePath : Bool :=
  let lowered := normalizeLowercaseStringOrEmpty path
  endsWith lowered "serviceaccount" || endsWith lowered "serviceaccountref"

/-! ## Sensitive URLs -/

/-- `/^mcp\.servers\.(?:\*|[^.]+)\.url$/`. -/
def isMcpServerUrlPath : Bool :=
  match List.splitOn 46 path with
  | [first, second, name, last] =>
    first = js "mcp" && second = js "servers" && name ≠ [] && last = js "url"
  | _ => false

def isSensitiveUrlConfigPath : Bool :=
  endsWith path ".baseUrl" || endsWith path ".httpUrl" ||
    endsWith path ".cdpUrl" || endsWith path ".request.proxy.url" ||
    isMcpServerUrlPath path

def sensitiveUrlQueryParamNames : List JsString :=
  ["token", "key", "api_key", "apikey", "secret", "access_token", "password",
    "pass", "auth", "client_secret", "refresh_token"].map js

def isSensitiveUrlQueryParamName (name : JsString) : Bool :=
  sensitiveUrlQueryParamNames.contains (normalizeLowercaseStringOrEmpty name)

structure ParsedUrl where
  rest : JsString
  username : JsString
  password : JsString
  searchParams : List (JsString × JsString)

/-- The URLs of the platform: the constructor, which may throw, and
`toString`. -/
structure UrlLibrary where
  parse : JsString → Option ParsedUrl
  toString : ParsedUrl → JsString

/-- `searchParams.set(key, value)`: the first parameter with the name is set and
the others are removed. -/
def setSearchParam (key value : JsString) : List (JsString × JsString) → List (JsString × JsString)
  | [] => [(key, value)]
  | (other, old) :: rest =>
    if other = key then (key, value) :: rest.filter (·.1 ≠ key)
    else (other, old) :: setSearchParam key value rest

def redactSensitiveUrl (urls : UrlLibrary) (value : JsString) : JsString :=
  match urls.parse value with
  | none => value
  | some parsed =>
    let stars := js "***"
    let mask := fun part : JsString => if part = [] then [] else stars
    let keys := (parsed.searchParams.map Prod.fst).filter isSensitiveUrlQueryParamName
    if parsed.username = [] && parsed.password = [] && keys = [] then value
    else
      urls.toString { parsed with
          username := mask parsed.username
          password := mask parsed.password
          searchParams := keys.foldl (fun params key => setSearchParam key stars params)
            parsed.searchParams }

/-- `value.replace(/\/\/([^@/?#]+)@/, "//***:***@")`. -/
def maskCredentials : JsString → JsString
  | [] => []
  | unit :: rest =>
    let after := rest.drop 1
    let user := after.takeWhile fun unit => !([64, 47, 63, 35].contains unit)
    if unit = 47 && rest.head? = some 47 && user ≠ [] &&
        (after.drop user.length).head? = some 64 then
      js "//***:***" ++ after.drop user.length
    else unit :: maskCredentials rest

/-- `value.replace(/([?&])([^=&]+)=([^&]*)/g, ...)`; the fuel is the length of
the value. -/
def maskParams : ℕ → JsString → JsString
  | 0, value => value
  | _, [] => []
  | fuel + 1, unit :: rest =>
    let key := rest.takeWhile fun unit => !([61, 38].contains unit)
    let tail := rest.drop key.length
    if (unit = 63 || unit = 38) && key ≠ [] && tail.head? = some 61 then
      let text := (tail.drop 1).takeWhile (· ≠ 38)
      let after := (tail.drop 1).drop text.length
      (if isSensitiveUrlQueryParamName key then unit :: key ++ js "=***"
        else unit :: key ++ 61 :: text) ++ maskParams fuel after
    else unit :: maskParams fuel rest

def redactSensitiveUrlLikeString (urls : UrlLibrary) (value : JsString) :
    JsString :=
  let redactedUrl := redactSensitiveUrl urls value
  if redactedUrl ≠ value then redactedUrl
  else
    let masked := maskCredentials value
    maskParams masked.length masked

/-! ## Hints -/

structure ConfigUiHint where
  tags : Option (List JsString) := none
  sensitive : Option Bool := none

abbrev ConfigUiHints := List (JsString × ConfigUiHint)

/-- `hints[path]?.sensitive === true`. -/
def hintedSensitive (hints : ConfigUiHints) (path : JsString) : Bool :=
  (hints.lookup path).any (·.sensitive == some true)

def hasSensitiveUrlHintTag (hint : ConfigUiHint) : Bool :=
  hint.tags.any (·.contains (js "url-secret"))

def hasSensitiveUrlHintPath (hints : Option ConfigUiHints) (paths : List JsString) : Bool :=
  hints.any fun hints =>
    paths.any fun path => (hints.lookup path).any hasSensitiveUrlHintTag

def isExplicitlyNonSensitivePath (hints : Option ConfigUiHints) (paths : List JsString) : Bool :=
  hints.any fun hints =>
    paths.any fun path => (hints.lookup path).any (·.sensitive == some false)

def lookupParts : JsString → List JsString → List JsString
  | _, [] => []
  | joinedPath, part :: rest =>
    let next := joinedPath ++ js "." ++ part
    (if endsWith part "[]" then [joinedPath ++ js "." ++ dropLastTwo part]
      else []) ++ next :: lookupParts next rest

def lookupEntries : List JsString :=
  match List.splitOn 46 path with
  | [] => []
  | first :: rest =>
    first :: (if endsWith first "[]" then [dropLastTwo first] else []) ++ lookupParts first rest

def buildRedactionLookup (hints : ConfigUiHints) : List JsString :=
  let result := (hints.filter (·.2.sensitive == some true)).flatMap fun hint =>
    lookupEntries hint.1
  if result = [] then [] else [] :: result

variable (parent : JsString)

def memberPath (key : JsString) : JsString :=
  if parent = [] then key else parent ++ js "." ++ key

def wildcardPath : JsString := memberPath parent (js "*")

def itemPath : JsString := parent ++ js "[]"

/-- The first of the path and the wildcard path that the lookup has. -/
def candidate (lookup : List JsString) (parent key : JsString) : Option JsString :=
  [memberPath parent key, wildcardPath parent].find? (lookup.contains ·)

end LittleBaby.Redact
