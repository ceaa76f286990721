import LittleBaby.RouteKeys

/-!
# Replies that are not shown

Replies may carry inline tags, which are removed before they are shown, and some whole
replies are tokens for the gateway itself.
-/

namespace LittleBaby.Chat

open JsString Routing

variable (text : JsString)

def skipSpaces : JsString := text.dropWhile isSpace

def afterLiteral (literal : JsString) (text : JsString) : Option JsString :=
  if (text.take literal.length).map asciiLower = literal.map asciiLower then
    some (text.drop literal.length)
  else none

/-- `/\[\[\s*audio_as_voice\s*\]\]/i` at the start of the text. -/
def afterAudioTag : Option JsString :=
  ((afterLiteral (js "[[") text).bind fun rest =>
    afterLiteral (js "audio_as_voice") (skipSpaces rest)).bind fun rest =>
      afterLiteral (js "]]") (skipSpaces rest)

/-- `/^\s*[^\]\n]+\s*$/` for a text without `]`. -/
def isTagId : Bool :=
  if trim text = [] then text.any (· ≠ 0x0A) else 0x0A ∉ trim text

/-- `/\[\[\s*(?:reply_to_current|reply_to\s*:\s*([^\]\n]+))\s*\]\]/i` at the start of the
text. -/
def afterReplyTag : Option JsString :=
  (afterLiteral (js "[[") text).bind fun rest =>
    let rest := skipSpaces rest
    match afterLiteral (js "reply_to_current") rest with
    | some rest => afterLiteral (js "]]") (skipSpaces rest)
    | none =>
      ((afterLiteral (js "reply_to") rest).bind fun rest =>
        afterLiteral (js ":") (skipSpaces rest)).bind fun rest =>
          if isTagId (rest.takeWhile (· ≠ 0x5D)) then
            afterLiteral (js "]]") (rest.dropWhile (· ≠ 0x5D))
          else none

/-- `text.replace(tag, "")` for a global pattern that matches at least one unit. -/
def removeTags (afterTag : JsString → Option JsString) : ℕ → JsString → JsString
  | _, [] => []
  | 0, text => text
  | steps + 1, unit :: rest =>
    match afterTag (unit :: rest) with
    | some after => removeTags afterTag steps after
    | none => unit :: removeTags afterTag steps rest

def stripInlineDirectiveTagsForDisplay : JsString :=
  let withoutAudio := removeTags afterAudioTag text.length text
  removeTags afterReplyTag withoutAudio.length withoutAudio

def SILENT_REPLY_TOKEN : JsString := js "NO_REPLY"

def SUPPRESSED_CONTROL_REPLY_TOKENS : List JsString :=
  [SILENT_REPLY_TOKEN, js "ANNOUNCE_SKIP", js "REPLY_SKIP"]

def isSilentReplyText (token text : JsString) : Bool :=
  text ≠ [] && (trim text).map asciiLower == token.map asciiLower

def isSuppressedControlReplyText : Bool :=
  SUPPRESSED_CONTROL_REPLY_TOKENS.any fun token => isSilentReplyText token (trim text)

/-- What the texts know of Unicode: `toUpperCase`, and whether a text begins with a letter
or a number. -/
structure Unicode where
  toUpperCase : JsString → JsString
  startsWithWord : JsString → Bool

variable (unicode : Unicode)

def normalizeSuppressedControlReplyFragment (text : JsString) : JsString :=
  let normalized := unicode.toUpperCase (trim text)
  if trim text = [] then []
  else if normalized.all fun unit => (0x41 ≤ unit && unit ≤ 0x5A) || unit == 0x5F then
    normalized
  else []

def minBarePrefixLength (token : JsString) : ℕ := if token = SILENT_REPLY_TOKEN then 2 else 3

def isSuppressedControlReplyLeadFragment (text : JsString) : Bool :=
  let normalized := normalizeSuppressedControlReplyFragment unicode text
  normalized ≠ [] && SUPPRESSED_CONTROL_REPLY_TOKENS.any fun token =>
    if normalized = token then false
    else if !normalized.isPrefixOf token then false
    else if 0x5F ∈ normalized then true
    else if token ≠ SILENT_REPLY_TOKEN ∧ trim text ≠ unicode.toUpperCase (trim text) then false
    else minBarePrefixLength token ≤ normalized.length

/-- `/^\s*(?:NO_REPLY\s+)*NO_REPLY(?=[\p{L}\p{N}])/iu`, behind white space. -/
def startsWithAttachedToken : ℕ → JsString → Bool
  | 0, _ => false
  | steps + 1, text =>
    match afterLiteral SILENT_REPLY_TOKEN text with
    | none => false
    | some rest =>
      if unicode.startsWithWord rest then true
      else if rest.head?.any isSpace then
        startsWithAttachedToken steps (skipSpaces rest)
      else false

def startsWithSilentToken (text : JsString) : Bool :=
  startsWithAttachedToken unicode text.length (skipSpaces text)

/-- `text.replace(/^(?:\s*NO_REPLY)+\s*/i, "")`. -/
def dropLeadingTokens : ℕ → JsString → JsString
  | 0, text => text
  | steps + 1, text =>
    match afterLiteral SILENT_REPLY_TOKEN (skipSpaces text) with
    | none => skipSpaces text
    | some rest => dropLeadingTokens steps rest

def stripLeadingSilentToken (text : JsString) : JsString :=
  trim (dropLeadingTokens text.length text)

end LittleBaby.Chat
