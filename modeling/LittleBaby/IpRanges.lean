import LittleBaby.JsString

/-!
# Addresses in ranges

Whether an address belongs to a range, whatever the spelling of the two.  Texts are parsed
and addresses compared by a library that is a parameter here.
-/

namespace LittleBaby.IpRanges

open JsString

inductive Address where
  | ipv4 (value : BitVec 32)
  | ipv6 (value : BitVec 128) (zoneId : Option JsString)
  deriving DecidableEq

/-- The functions of `ipaddr.js`; those that may throw give an option. -/
structure Library where
  ipv4IsValid : JsString → Bool
  isValidFourPartDecimal : JsString → Bool
  ipv4Parse : JsString → BitVec 32
  ipv6IsValid : JsString → Bool
  ipv6Parse : JsString → BitVec 128 × Option JsString
  isIPv4MappedAddress : BitVec 128 → Bool
  toIPv4Address : BitVec 128 → BitVec 32
  toText : Address → JsString
  parseCIDR : JsString → Option (Address × ℕ)
  ipv4Match : BitVec 32 → BitVec 32 × ℕ → Option Bool
  ipv6Match : BitVec 128 → BitVec 128 × ℕ → Option Bool

variable (ipaddr : Library)

/-! ## Reading an address -/

def stripIpv6Brackets (value : JsString) : JsString :=
  if value.head? = some 0x5B ∧ value.getLast? = some 0x5D then value.tail.dropLast else value

variable (raw : JsString)

def normalizeIpParseInput : Option JsString := (nonBlank raw).map stripIpv6Brackets

/-- `/^[^:%]+(?:\.[^:%]+){dots}$/` for a text without `:` and `%`. -/
def hasParts : ℕ → JsString → Bool
  | 0, text => !text.isEmpty
  | dots + 1, text =>
    (List.range text.length).any fun position =>
      0 < position && text[position]? == some 0x2E && hasParts dots (text.drop (position + 1))

def isLineTerminator (unit : UInt16) : Bool := unit ∈ ([0x0A, 0x0D, 0x2028, 0x2029] : List UInt16)

def isAlphanumeric (unit : UInt16) : Bool :=
  (0x30 ≤ unit && unit ≤ 0x39) || (0x41 ≤ unit && unit ≤ 0x5A) || (0x61 ≤ unit && unit ≤ 0x7A)

/-- `/^(.*:)([^:%]+(?:\.[^:%]+){3})(%[0-9A-Za-z]+)?$/i`. -/
def matchEmbeddedIpv4 : Option (JsString × JsString × JsString) :=
  let beforeColon := raw.rdropWhile (· ≠ 0x3A)
  let afterColon := raw.rtakeWhile (· ≠ 0x3A)
  let embeddedIpv4 := afterColon.takeWhile (· ≠ 0x25)
  let zoneSuffix := afterColon.dropWhile (· ≠ 0x25)
  if beforeColon ≠ [] ∧ beforeColon.any isLineTerminator = false ∧ hasParts 3 embeddedIpv4 ∧
      (zoneSuffix = [] ∨ (zoneSuffix.tail ≠ [] ∧ zoneSuffix.tail.all isAlphanumeric)) then
    some (beforeColon, embeddedIpv4, zoneSuffix)
  else none

variable (text : JsString)

def leadingNumber : ℕ :=
  (text.takeWhile fun unit => 0x30 ≤ unit && unit ≤ 0x39).foldl
    (fun value unit => value * 10 + (unit.toNat - 0x30)) 0

/-- `((high << 8) | low).toString(16)`. -/
def hextet (high low : ℕ) : JsString := js (String.ofList (Nat.toDigits 16 (high <<< 8 ||| low)))

def parseIpv6WithEmbeddedIpv4 : Option Address :=
  if 0x3A ∈ raw ∧ 0x2E ∈ raw then
    match matchEmbeddedIpv4 raw with
    | none => none
    | some (start, embeddedIpv4, zoneSuffix) =>
      if ipaddr.isValidFourPartDecimal embeddedIpv4 then
        let octets := (embeddedIpv4.splitOn 0x2E).map leadingNumber
        let normalizedIpv6 := start ++ hextet (octets.getD 0 0) (octets.getD 1 0) ++
          js ":" ++ hextet (octets.getD 2 0) (octets.getD 3 0) ++ zoneSuffix
        if ipaddr.ipv6IsValid normalizedIpv6 then
          let parsed := ipaddr.ipv6Parse normalizedIpv6
          some (.ipv6 parsed.1 parsed.2)
        else none
      else none
  else none

def parseCanonicalIpAddress : Option Address :=
  match normalizeIpParseInput raw with
  | none => none
  | some normalized =>
    if normalized = [] then none
    else if ipaddr.ipv4IsValid normalized then
      if ipaddr.isValidFourPartDecimal normalized then
        some (.ipv4 (ipaddr.ipv4Parse normalized))
      else none
    else if ipaddr.ipv6IsValid normalized then
      some (.ipv6 (ipaddr.ipv6Parse normalized).1 (ipaddr.ipv6Parse normalized).2)
    else parseIpv6WithEmbeddedIpv4 ipaddr normalized

def normalizeIpv4MappedAddress : Address → Address
  | .ipv4 value => .ipv4 value
  | .ipv6 value zoneId =>
    if ipaddr.isIPv4MappedAddress value then .ipv4 (ipaddr.toIPv4Address value)
    else .ipv6 value zoneId

def isSameKind : Address → Address → Bool
  | .ipv4 _, .ipv4 _ => true
  | .ipv6 _ _, .ipv6 _ _ => true
  | _, _ => false

/-- The match of two addresses of one kind; an exception means that it fails. -/
def matchRange : Address → Address → ℕ → Bool
  | .ipv4 address, .ipv4 base, prefixLength =>
    (ipaddr.ipv4Match address (base, prefixLength)).getD false
  | .ipv6 address _, .ipv6 base _, prefixLength =>
    (ipaddr.ipv6Match address (base, prefixLength)).getD false
  | _, _, _ => false

def isIpInCidr (ip cidr : JsString) : Bool :=
  match parseCanonicalIpAddress ipaddr ip with
  | none => false
  | some normalizedIp =>
    let candidate := trim cidr
    let comparableIp := normalizeIpv4MappedAddress ipaddr normalizedIp
    if candidate = [] then false
    else if 0x2F ∉ candidate then
      match parseCanonicalIpAddress ipaddr candidate with
      | none => false
      | some exact =>
        let comparableExact := normalizeIpv4MappedAddress ipaddr exact
        isSameKind comparableIp comparableExact &&
          ipaddr.toText comparableIp == ipaddr.toText comparableExact
    else
      match ipaddr.parseCIDR candidate with
      | none => false
      | some (baseAddress, prefixLength) =>
        matchRange ipaddr comparableIp (normalizeIpv4MappedAddress ipaddr baseAddress) prefixLength

/-! ## Questions -/

def Agree {width : ℕ} (bits : ℕ) (a b : BitVec width) : Prop :=
  ∀ position < bits, a.getMsbD position = b.getMsbD position

instance {width : ℕ} (bits : ℕ) (a b : BitVec width) : Decidable (Agree bits a b) :=
  Nat.decidableBallLT bits _

/-- `::ffff:a`. -/
def mappedAddress (a : BitVec 32) : BitVec 128 := (0xFFFF : BitVec 96) ++ a

def IsMapped (value : BitVec 128) : Prop := ∃ a, value = mappedAddress a

structure Library.Lawful : Prop where
  mapped : ∀ value, ipaddr.isIPv4MappedAddress value = true ↔ IsMapped value
  toIPv4Address : ∀ a, ipaddr.toIPv4Address (mappedAddress a) = a
  ipv4Match : ∀ a b bits, bits ≤ 32 → ipaddr.ipv4Match a (b, bits) = some (decide (Agree bits a b))
  ipv4Rejects : ∀ a b bits, 32 < bits → ipaddr.ipv4Match a (b, bits) ≠ some true
  ipv6Match : ∀ a b bits, bits ≤ 128 → ipaddr.ipv6Match a (b, bits) = some (decide (Agree bits a b))

def SpellsIpv4 (value : BitVec 32) : Prop :=
  ∃ text, normalizeIpParseInput raw = some text ∧ text ≠ [] ∧
    ipaddr.ipv4IsValid text = true ∧ ipaddr.isValidFourPartDecimal text = true ∧
      ipaddr.ipv4Parse text = value

def SpellsIpv6 (value : BitVec 128) : Prop :=
  ∃ text, normalizeIpParseInput raw = some text ∧ text ≠ [] ∧
    ipaddr.ipv4IsValid text = false ∧ ipaddr.ipv6IsValid text = true ∧
      (ipaddr.ipv6Parse text).1 = value

def SpellsRange (cidr : JsString) (base : Address) (prefixLength : ℕ) : Prop :=
  0x2F ∈ trim cidr ∧ ipaddr.parseCIDR (trim cidr) = some (base, prefixLength)

/-- Whether the first bits of two addresses agree.  Either side of a question about IPv4
addresses may be given in the mapped form. -/
inductive Question where
  | ipv4 (a b : BitVec 32) (bits : ℕ) (mappedIp mappedRange : Bool)
  | ipv6 (a b : BitVec 128) (bits : ℕ)

namespace Question

def Asked (ip cidr : JsString) : Question → Prop
  | ipv4 a b bits mappedIp mappedRange =>
    bits ≤ 32 ∧ (if mappedIp then SpellsIpv6 ipaddr ip (mappedAddress a)
        else SpellsIpv4 ipaddr ip a) ∧
      (if mappedRange then
          ∃ zoneId, SpellsRange ipaddr cidr (.ipv6 (mappedAddress b) zoneId) (96 + bits)
        else SpellsRange ipaddr cidr (.ipv4 b) bits)
  | ipv6 a b bits =>
    bits ≤ 128 ∧ ¬IsMapped a ∧ ¬IsMapped b ∧ SpellsIpv6 ipaddr ip a ∧
      ∃ zoneId, SpellsRange ipaddr cidr (.ipv6 b zoneId) bits

def answer : Question → Bool
  | ipv4 a b bits _ _ => decide (Agree bits a b)
  | ipv6 a b bits => decide (Agree bits a b)

def hasMappedRange : Question → Bool
  | ipv4 _ _ _ _ mappedRange => mappedRange
  | ipv6 _ _ _ => false

end Question

theorem parseCanonicalIpAddress_ipv4 {raw : JsString} {value : BitVec 32}
    (hspells : SpellsIpv4 ipaddr raw value) :
    parseCanonicalIpAddress ipaddr raw = some (.ipv4 value) := by
  obtain ⟨text, hnormalized, hne, hvalid, hdecimal, hparse⟩ := hspells
  simp only [parseCanonicalIpAddress, hnormalized]
  rw [if_neg hne, if_pos hvalid, if_pos hdecimal, hparse]

theorem parseCanonicalIpAddress_ipv6 {raw : JsString} {value : BitVec 128}
    (hspells : SpellsIpv6 ipaddr raw value) :
    ∃ zoneId, parseCanonicalIpAddress ipaddr raw = some (.ipv6 value zoneId) := by
  obtain ⟨text, hnormalized, hne, hnone, hvalid, hparse⟩ := hspells
  refine ⟨(ipaddr.ipv6Parse text).2, ?_⟩
  simp only [parseCanonicalIpAddress, hnormalized]
  rw [if_neg hne, if_neg (by simp [hnone]), if_pos hvalid, hparse]

theorem isIpInCidr_range {ip cidr : JsString} {address base : Address} {prefixLength : ℕ}
    (hip : parseCanonicalIpAddress ipaddr ip = some address)
    (hrange : SpellsRange ipaddr cidr base prefixLength) :
    isIpInCidr ipaddr ip cidr = matchRange ipaddr (normalizeIpv4MappedAddress ipaddr address)
        (normalizeIpv4MappedAddress ipaddr base) prefixLength := by
  obtain ⟨hslash, hparse⟩ := hrange
  have hne : trim cidr ≠ [] := List.ne_nil_of_mem hslash
  simp only [isIpInCidr, hip, hparse]
  rw [if_neg hne, if_neg (not_not.mpr hslash)]

section Lawful

variable {ipaddr} (hlawful : ipaddr.Lawful)

include hlawful

theorem normalize_mapped (a : BitVec 32) (zoneId : Option JsString) :
    normalizeIpv4MappedAddress ipaddr (.ipv6 (mappedAddress a) zoneId) = .ipv4 a := by
  rw [normalizeIpv4MappedAddress, if_pos ((hlawful.mapped _).mpr ⟨a, rfl⟩), hlawful.toIPv4Address]

theorem normalize_of_not_mapped {value : BitVec 128} (hvalue : ¬IsMapped value)
    (zoneId : Option JsString) :
    normalizeIpv4MappedAddress ipaddr (.ipv6 value zoneId) = .ipv6 value zoneId := by
  rw [normalizeIpv4MappedAddress, if_neg (fun hmapped => hvalue ((hlawful.mapped _).mp hmapped))]

theorem comparable_ipv4 {ip : JsString} {a : BitVec 32} {mappedIp : Bool}
    (hip : if mappedIp then SpellsIpv6 ipaddr ip (mappedAddress a) else SpellsIpv4 ipaddr ip a) :
    ∃ address, parseCanonicalIpAddress ipaddr ip = some address ∧
      normalizeIpv4MappedAddress ipaddr address = .ipv4 a := by
  cases mappedIp with
  | false => exact ⟨_, parseCanonicalIpAddress_ipv4 ipaddr hip, rfl⟩
  | true =>
    obtain ⟨zoneId, hparse⟩ := parseCanonicalIpAddress_ipv6 ipaddr hip
    exact ⟨_, hparse, normalize_mapped hlawful a zoneId⟩

theorem isIpInCidr_mapped_range {ip cidr : JsString} {address : Address} {a b : BitVec 32}
    {bits : ℕ} {zoneId : Option JsString}
    (hip : parseCanonicalIpAddress ipaddr ip = some address)
    (haddress : normalizeIpv4MappedAddress ipaddr address = .ipv4 a)
    (hrange : SpellsRange ipaddr cidr (.ipv6 (mappedAddress b) zoneId) (96 + bits)) :
    isIpInCidr ipaddr ip cidr = false := by
  rw [isIpInCidr_range ipaddr hip hrange, haddress, normalize_mapped hlawful, matchRange]
  -- The base is an IPv4 address now, the length is still that of the IPv6 one.
  have hreject := hlawful.ipv4Rejects a b (96 + bits) (by omega)
  cases hmatch : ipaddr.ipv4Match a (b, 96 + bits) with
  | none => rfl
  | some matched =>
    cases matched with
    | false => rfl
    | true => exact absurd hmatch hreject

end Lawful

/-- A question is answered right unless its range is spelled in the mapped form and has
the address in it. -/
theorem isIpInCidr_right_iff (hlawful : ipaddr.Lawful) {ip cidr : JsString}
    {question : Question} (hasked : question.Asked ipaddr ip cidr) :
    isIpInCidr ipaddr ip cidr = question.answer ↔
      ¬(question.hasMappedRange = true ∧ question.answer = true) := by
  cases question with
  | ipv4 a b bits mappedIp mappedRange =>
    obtain ⟨hbits, hip, hrange⟩ := hasked
    obtain ⟨address, hparse, haddress⟩ := comparable_ipv4 hlawful hip
    cases mappedRange with
    | false =>
      have hbase : normalizeIpv4MappedAddress ipaddr (.ipv4 b) = .ipv4 b := rfl
      rw [isIpInCidr_range ipaddr hparse hrange, haddress, hbase, matchRange,
        hlawful.ipv4Match a b bits hbits]
      simp [Question.answer, Question.hasMappedRange]
    | true =>
      obtain ⟨zoneId, hrange⟩ := hrange
      rw [isIpInCidr_mapped_range hlawful hparse haddress hrange]
      simp [Question.answer, Question.hasMappedRange]
  | ipv6 a b bits =>
    obtain ⟨hbits, ha, hb, hip, zoneId, hrange⟩ := hasked
    obtain ⟨zone, hparse⟩ := parseCanonicalIpAddress_ipv6 ipaddr hip
    rw [isIpInCidr_range ipaddr hparse hrange, normalize_of_not_mapped hlawful ha,
      normalize_of_not_mapped hlawful hb, matchRange, hlawful.ipv6Match a b bits hbits]
    simp [Question.answer, Question.hasMappedRange]

/-! ## A small library -/

def readOctets : Option (BitVec 32) :=
  let parts := text.splitOn 0x2E
  if parts.length = 4 ∧ parts.all fun part =>
      !part.isEmpty && part.length ≤ 3 && (part.all fun unit => 0x30 ≤ unit && unit ≤ 0x39) &&
        leadingNumber part ≤ 255 then
    some (parts.foldl (fun value part => value * 256 + BitVec.ofNat 32 (leadingNumber part)) 0)
  else none

/-- `::ffff:` and a dotted decimal address. -/
def readMapped : Option (BitVec 128) :=
  if js "::ffff:" <+: text then (readOctets (text.drop 7)).map mappedAddress else none

def readAddress : Option Address :=
  match readOctets text with
  | some value => some (.ipv4 value)
  | none => (readMapped text).map fun value => .ipv6 value none

def dottedText : Address → JsString
  | .ipv4 value =>
    js (toString (value.toNat / 0x1000000)) ++ js "." ++
      js (toString (value.toNat / 0x10000 % 0x100)) ++ js "." ++
      js (toString (value.toNat / 0x100 % 0x100)) ++ js "." ++
      js (toString (value.toNat % 0x100))
  | .ipv6 _ _ => js "::"

def dottedLibrary : Library where
  ipv4IsValid := fun text => (readOctets text).isSome
  isValidFourPartDecimal := fun text => (readOctets text).isSome
  ipv4Parse := fun text => (readOctets text).getD 0
  ipv6IsValid := fun text => (readMapped text).isSome
  ipv6Parse := fun text => ((readMapped text).getD 0, none)
  isIPv4MappedAddress := fun value => value == mappedAddress (value.setWidth 32)
  toIPv4Address := fun value => value.setWidth 32
  toText := dottedText
  parseCIDR := fun text =>
    (readAddress (text.takeWhile (· ≠ 0x2F))).map fun base =>
      (base, leadingNumber (text.dropWhile (· ≠ 0x2F)).tail)
  ipv4Match := fun a range => some (range.2 ≤ 32 && decide (Agree range.2 a range.1))
  ipv6Match := fun a range => some (range.2 ≤ 128 && decide (Agree range.2 a range.1))

theorem setWidth_mappedAddress (a : BitVec 32) : (mappedAddress a).setWidth 32 = a := by
  unfold mappedAddress
  rw [BitVec.setWidth_append_eq_right]

theorem dottedLibrary_lawful : dottedLibrary.Lawful where
  mapped := by
    intro value
    simp only [dottedLibrary, beq_iff_eq]
    constructor
    · intro hvalue
      exact ⟨_, hvalue⟩
    · rintro ⟨a, rfl⟩
      rw [setWidth_mappedAddress]
  toIPv4Address := setWidth_mappedAddress
  ipv4Match := by
    intro a b bits hbits
    simp [dottedLibrary, hbits]
  ipv4Rejects := by
    intro a b bits hbits
    simp [dottedLibrary, hbits.not_ge]
  ipv6Match := by
    intro a b bits hbits
    simp [dottedLibrary, hbits]

/-- `10.0.0.5` and `10.0.0.0` agree in their first eight bits. -/
def tenQuestion (mappedRange : Bool) : Question := .ipv4 0x0A000005 0x0A000000 8 false mappedRange

theorem asked_dotted : (tenQuestion false).Asked dottedLibrary (js "10.0.0.5") (js "10.0.0.0/8") :=
  ⟨by decide, ⟨js "10.0.0.5", by decide⟩, by decide, by decide⟩

theorem asked_mapped :
    (tenQuestion true).Asked dottedLibrary (js "10.0.0.5") (js "::ffff:10.0.0.0/104") :=
  ⟨by decide, ⟨js "10.0.0.5", by decide⟩, none, by decide, by decide⟩

theorem isIpInCidr_right_iff_dotted :
    isIpInCidr dottedLibrary (js "10.0.0.5") (js "10.0.0.0/8") = true :=
  (isIpInCidr_right_iff dottedLibrary dottedLibrary_lawful asked_dotted).mpr
    (fun hwrong => Bool.false_ne_true hwrong.1)

theorem mapped_range_without_members :
    (tenQuestion true).Asked dottedLibrary (js "10.0.0.5") (js "::ffff:10.0.0.0/104") ∧
      (tenQuestion true).answer = true ∧
      isIpInCidr dottedLibrary (js "10.0.0.5") (js "::ffff:10.0.0.0/104") = false :=
  ⟨asked_mapped, by decide, by decide⟩

end LittleBaby.IpRanges
