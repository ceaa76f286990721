import LittleBaby.JsString

/-!
# Route identifiers and session keys

Account and agent ids are reduced to a small alphabet; session keys name the
agent, and, depending on the scope, the channel, the account and the peer.
-/

namespace LittleBaby.Routing

open JsString

def isLowerIdUnit (unit : UInt16) : Bool :=
  (0x61 ≤ unit && unit ≤ 0x7A) || (0x30 ≤ unit && unit ≤ 0x39) || unit == 0x5F || unit == 0x2D

def asciiLower (unit : UInt16) : UInt16 :=
  if 0x41 ≤ unit && unit ≤ 0x5A then unit + 0x20 else unit

/-- `toLowerCase`, of which only the ASCII part is fixed. -/
structure Casing where
  toLowerCase : JsString → JsString
  ascii : ∀ text, (∀ unit ∈ text, unit < 0x80) → toLowerCase text = text.map asciiLower

theorem map_asciiLower_of_ascii (text : JsString) (_ : ∀ unit ∈ text, unit < 0x80) :
    text.map asciiLower = text.map asciiLower := rfl

inductive ChatType where
  | direct
  | group
  | channel
deriving DecidableEq

def ChatType.text : ChatType → JsString
  | .direct => js "direct"
  | .group => js "group"
  | .channel => js "channel"

inductive DmScope where
  | main
  | perPeer
  | perChannelPeer
  | perAccountChannelPeer
deriving DecidableEq

def DmScope.text : DmScope → JsString
  | .main => js "main"
  | .perPeer => js "per-peer"
  | .perChannelPeer => js "per-channel-peer"
  | .perAccountChannelPeer => js "per-account-channel-peer"

def DEFAULT_ACCOUNT_ID : JsString := js "default"

def DEFAULT_AGENT_ID : JsString := js "main"

def DEFAULT_MAIN_KEY : JsString := js "main"

def isBlockedObjectKey (key : JsString) : Bool :=
  key ∈ [js "__proto__", js "prototype", js "constructor"]

/-- `value ?? ""`. -/
def orEmpty (value : Option JsString) : JsString := value.getD []

/-- `first || second` on strings. -/
def orText (first second : JsString) : JsString :=
  if first = [] then second else first

/-- `VALID_ID_RE`, with its flag `i`. -/
def isValidId : JsString → Bool
  | [] => false
  | first :: rest =>
    isLowerIdUnit (asciiLower first) && first ≠ 0x5F && first ≠ 0x2D &&
      rest.all (fun unit => isLowerIdUnit (asciiLower unit)) && decide (rest.length ≤ 63)

/-- `text.replace(INVALID_CHARS_RE, "-")`; `inside` a run of such characters its
dash has been written. -/
def replaceInvalidChars (inside : Bool) : JsString → JsString
  | [] => []
  | unit :: rest =>
    if isLowerIdUnit unit then unit :: replaceInvalidChars false rest
    else if inside then replaceInvalidChars true rest
    else 0x2D :: replaceInvalidChars true rest

def collapseId (text : JsString) : JsString :=
  ((((replaceInvalidChars false text).dropWhile (· == 0x2D)).rdropWhile (· == 0x2D))).take 64

/-- `normalizeRouteBindingId`. -/
def normalizeId (value : Option JsString) : JsString := trim (orEmpty value)

namespace Casing

variable (casing : Casing)

variable (value : Option JsString)

def normalizeOptionalLowercaseString : Option JsString :=
  (nonBlank (orEmpty value)).map casing.toLowerCase

def normalizeLowercaseStringOrEmpty : JsString :=
  orEmpty (casing.normalizeOptionalLowercaseString value)

def normalizeToken : JsString := casing.normalizeLowercaseStringOrEmpty value

def normalizeChatType (raw : Option JsString) : Option ChatType :=
  match casing.normalizeOptionalLowercaseString raw with
  | none => none
  | some value =>
    if value = js "direct" ∨ value = js "dm" then some .direct
    else if value = js "group" then some .group
    else if value = js "channel" then some .channel
    else none

def canonicalizeAccountId (value : JsString) : JsString :=
  let normalized := casing.normalizeLowercaseStringOrEmpty (some value)
  if isValidId value then normalized else collapseId normalized

def normalizeCanonicalAccountId (value : JsString) : Option JsString :=
  let canonical := casing.canonicalizeAccountId value
  if canonical = [] ∨ isBlockedObjectKey canonical then none
  else some canonical

def normalizeAccountId : JsString :=
  let trimmed := trim (orEmpty value)
  if trimmed = [] then DEFAULT_ACCOUNT_ID
  else (casing.normalizeCanonicalAccountId trimmed).getD DEFAULT_ACCOUNT_ID

def normalizeAgentId : JsString :=
  let trimmed := trim (orEmpty value)
  if trimmed = [] then DEFAULT_AGENT_ID
  else
    let normalized := casing.normalizeLowercaseStringOrEmpty (some trimmed)
    if isValidId trimmed then normalized
    else orText (collapseId normalized) DEFAULT_AGENT_ID

def sanitizeAgentId : JsString := casing.normalizeAgentId value

def normalizeMainKey : JsString :=
  orText (casing.normalizeLowercaseStringOrEmpty value) DEFAULT_MAIN_KEY

def buildAgentMainSessionKey (agentId : JsString) (mainKey : Option JsString) :
    JsString :=
  js "agent:" ++ casing.normalizeAgentId (some agentId) ++ js ":" ++ casing.normalizeMainKey mainKey

def resolveLinkedPeerId (identityLinks : Option (List (JsString × List JsString)))
    (channel peerId : JsString) : Option JsString :=
  match identityLinks with
  | none => none
  | some identityLinks =>
    let peerId := trim peerId
    if peerId = [] then none
    else
      let channel := casing.normalizeToken (some channel)
      let scopedCandidate :=
        if channel = [] then []
        else casing.normalizeToken (some (channel ++ js ":" ++ peerId))
      let candidates := [casing.normalizeToken (some peerId), scopedCandidate].filter (· ≠ [])
      -- with no candidate the loop below finds nothing
      (identityLinks.find? fun link =>
        trim link.1 ≠ [] && link.2.any fun id =>
          casing.normalizeToken (some id) ≠ [] && casing.normalizeToken (some id) ∈ candidates).map
        fun link => trim link.1

structure PeerSessionKeyParams where
  agentId : JsString
  mainKey : Option JsString
  channel : JsString
  accountId : Option JsString
  peerKind : JsString
  peerId : Option JsString
  dmScope : DmScope
  identityLinks : Option (List (JsString × List JsString))

def directPeerId (params : PeerSessionKeyParams) : JsString :=
  let peerId := trim (orEmpty params.peerId)
  let linkedPeerId :=
    if params.dmScope = .main then none
    else casing.resolveLinkedPeerId params.identityLinks params.channel peerId
  casing.normalizeLowercaseStringOrEmpty (some (linkedPeerId.getD peerId))

def buildAgentPeerSessionKey (params : PeerSessionKeyParams) : JsString :=
  let agent := js "agent:" ++ casing.normalizeAgentId (some params.agentId) ++ js ":"
  let channel := orText
    (casing.normalizeLowercaseStringOrEmpty (some params.channel)) (js "unknown")
  if params.peerKind = ChatType.direct.text then
    let peerId := casing.directPeerId params
    if params.dmScope = .perAccountChannelPeer ∧ peerId ≠ [] then
      agent ++ channel ++ js ":" ++ casing.normalizeAccountId params.accountId ++
        js ":direct:" ++ peerId
    else if params.dmScope = .perChannelPeer ∧ peerId ≠ [] then
      agent ++ channel ++ js ":direct:" ++ peerId
    else if params.dmScope = .perPeer ∧ peerId ≠ [] then
      agent ++ js "direct:" ++ peerId
    else casing.buildAgentMainSessionKey params.agentId params.mainKey
  else
    agent ++ channel ++ js ":" ++ params.peerKind ++ js ":" ++
      orText (casing.normalizeLowercaseStringOrEmpty params.peerId) (js "unknown")

end Casing

variable {unit : UInt16}

theorem toNat_of_isLowerIdUnit (hunit : isLowerIdUnit unit = true) :
    0x61 ≤ unit.toNat ∧ unit.toNat ≤ 0x7A ∨ 0x30 ≤ unit.toNat ∧ unit.toNat ≤ 0x39 ∨
      unit.toNat = 0x5F ∨ unit.toNat = 0x2D := by
  simp only [isLowerIdUnit, Bool.or_eq_true, Bool.and_eq_true, decide_eq_true_iff,
    beq_iff_eq, UInt16.le_iff_toNat_le, ← UInt16.toNat_inj, UInt16.reduceToNat]
    at hunit
  omega

theorem isSpace_eq_false (hlow : 0x20 < unit.toNat)
    (hhigh : unit.toNat < 0x80) : isSpace unit = false := by
  simp only [isSpace, List.mem_cons, List.not_mem_nil, or_false,
    decide_eq_false_iff_not, ← UInt16.toNat_inj, UInt16.reduceToNat]
  omega

theorem toNat_of_asciiLower (hunit : isLowerIdUnit (asciiLower unit) = true) :
    0x20 < unit.toNat ∧ unit.toNat < 0x80 := by
  have hlower := toNat_of_isLowerIdUnit hunit
  unfold asciiLower at hlower
  split at hlower
  next hupper =>
    simp only [Bool.and_eq_true, decide_eq_true_iff, UInt16.le_iff_toNat_le,
      UInt16.reduceToNat] at hupper
    omega
  next => omega

theorem tab_of_isLowerIdUnit : isLowerIdUnit 0x09 = false := by
  decide

variable {text : JsString}

theorem mem_of_isValidId (hvalid : isValidId text = true) :
    ∀ unit ∈ text, isLowerIdUnit (asciiLower unit) = true := by
  cases text with
  | nil => cases hvalid
  | cons first rest =>
    simp only [isValidId, Bool.and_eq_true, List.all_eq_true] at hvalid
    intro unit hunit
    rcases List.mem_cons.mp hunit with rfl | hunit
    · exact hvalid.1.1.1.1
    · exact hvalid.1.2 unit hunit

theorem mem_replaceInvalidChars {inside : Bool} :
    ∀ unit ∈ replaceInvalidChars inside text, isLowerIdUnit unit = true := by
  induction text generalizing inside with
  | nil =>
    intro unit hunit
    cases hunit
  | cons first rest ih =>
    intro unit hunit
    rw [replaceInvalidChars] at hunit
    split at hunit
    next hfirst =>
      rcases List.mem_cons.mp hunit with rfl | hunit
      · exact hfirst
      · exact ih unit hunit
    next =>
      split at hunit
      next => exact ih unit hunit
      next =>
        rcases List.mem_cons.mp hunit with rfl | hunit
        · decide
        · exact ih unit hunit

theorem mem_collapseId : ∀ unit ∈ collapseId text, isLowerIdUnit unit = true := by
  intro unit hunit
  have hrdrop := List.mem_of_mem_take hunit
  have hdrop := (List.rdropWhile_prefix _ _).subset hrdrop
  exact mem_replaceInvalidChars unit ((List.dropWhile_sublist _).subset hdrop)

namespace Casing

variable (casing : Casing)

theorem normalizeLowercase_of_isValidId (hvalid : isValidId text = true) :
    casing.normalizeLowercaseStringOrEmpty (some text) = text.map asciiLower := by
  have hunits := mem_of_isValidId hvalid
  have hspace : ∀ unit ∈ text, isSpace unit = false := by
    intro unit hunit
    have hbounds := toNat_of_asciiLower (hunits unit hunit)
    exact isSpace_eq_false hbounds.1 hbounds.2
  have hascii : ∀ unit ∈ text, unit < 0x80 := by
    intro unit hunit
    have hbounds := toNat_of_asciiLower (hunits unit hunit)
    rw [UInt16.lt_iff_toNat_lt]
    exact hbounds.2
  have hne : text ≠ [] := by
    intro hnil
    subst hnil
    cases hvalid
  have htrim := trim_eq_self hspace
  simp only [normalizeLowercaseStringOrEmpty, normalizeOptionalLowercaseString,
    orEmpty, Option.getD_some, nonBlank, htrim, hne, if_false, Option.map_some]
  exact casing.ascii text hascii

theorem mem_canonicalizeAccountId :
    ∀ unit ∈ casing.canonicalizeAccountId text, isLowerIdUnit unit = true := by
  intro unit hunit
  unfold canonicalizeAccountId at hunit
  simp only at hunit
  split at hunit
  next hvalid =>
    rw [normalizeLowercase_of_isValidId casing hvalid] at hunit
    rcases List.mem_map.mp hunit with ⟨original, horiginal, rfl⟩
    exact mem_of_isValidId hvalid original horiginal
  next => exact mem_collapseId unit hunit

theorem mem_normalizeAccountId {value : Option JsString} :
    ∀ unit ∈ casing.normalizeAccountId value, isLowerIdUnit unit = true := by
  have hall : DEFAULT_ACCOUNT_ID.all isLowerIdUnit = true := by
    decide
  have hdefault := List.all_eq_true.mp hall
  unfold normalizeAccountId
  simp only
  split
  next => exact hdefault
  next =>
    unfold normalizeCanonicalAccountId
    simp only
    split
    next => exact hdefault
    next => exact mem_canonicalizeAccountId casing

theorem tab_notMem_normalizeAccountId {value : Option JsString} :
    0x09 ∉ casing.normalizeAccountId value := by
  intro htab
  have hunit := mem_normalizeAccountId casing _ htab
  rw [tab_of_isLowerIdUnit] at hunit
  cases hunit

end Casing
end LittleBaby.Routing
