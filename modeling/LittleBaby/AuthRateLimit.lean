import Mathlib.Data.Rat.Floor
import Mathlib.Logic.Function.Basic
import LittleBaby.IpRanges
import LittleBaby.LabelledMachine
import LittleBaby.SlidingWindow

/-!
# Limits on failed authentication

Failed attempts are counted per scope and address in a sliding window.  When a window is
full, the key is locked for some time.
-/

namespace LittleBaby.AuthRateLimit

open JsString IpRanges SlidingWindow

structure RateLimitConfig where
  maxAttempts : ℚ
  windowMs : ℚ
  lockoutMs : ℚ
  exemptLoopback : Bool

/-- The address library, `toLowerCase`, and whether an address is in the loopback range. -/
structure Host where
  ipaddr : Library
  toLowerCase : JsString → JsString
  isLoopbackRange : Address → Bool

variable (host : Host)

def normalizeIpAddress (raw : Option JsString) : Option JsString :=
  (raw.bind (parseCanonicalIpAddress host.ipaddr)).map fun parsed =>
    let normalized := normalizeIpv4MappedAddress host.ipaddr parsed
    ((nonBlank (host.ipaddr.toText normalized)).map host.toLowerCase).getD []

def isLoopbackAddress (raw : JsString) : Bool :=
  match parseCanonicalIpAddress host.ipaddr raw with
  | none => false
  | some parsed => host.isLoopbackRange (normalizeIpv4MappedAddress host.ipaddr parsed)

/-- `resolveClientIp` of an address alone. -/
def resolveRemoteAddr (remoteAddr : Option JsString) : Option JsString :=
  (normalizeIpAddress host remoteAddr).filter (· ≠ [])

def BROWSER_ORIGIN_RATE_LIMIT_KEY_PREFIX : JsString := js "browser-origin:"

def normalizeRateLimitClientIp (ip : Option JsString) : JsString :=
  match ip with
  | some text =>
    if startsWith text BROWSER_ORIGIN_RATE_LIMIT_KEY_PREFIX then text
    else (resolveRemoteAddr host ip).getD (js "unknown")
  | none => (resolveRemoteAddr host ip).getD (js "unknown")

def normalizeScope (scope : Option JsString) : JsString :=
  (nonBlank (scope.getD (js "default"))).getD (js "default")

def resolveKey (rawIp rawScope : Option JsString) : JsString :=
  normalizeScope rawScope ++ js ":" ++ normalizeRateLimitClientIp host rawIp

variable (config : RateLimitConfig)

def isExempt (ip : JsString) : Bool := config.exemptLoopback && isLoopbackAddress host ip

structure RateLimitEntry where
  attempts : List ℚ
  lockedUntil : Option ℚ

namespace RateLimitEntry

variable (entry : RateLimitEntry)

/-- `entry.lockedUntil`, where zero counts as missing. -/
def lock : Option ℚ := entry.lockedUntil.filter (· ≠ 0)

/-- `entry.lockedUntil && now < entry.lockedUntil`. -/
def isLocked (now : ℚ) : Bool := entry.lock.any fun lockedUntil => now < lockedUntil

end RateLimitEntry

structure RateLimitCheckResult where
  allowed : Bool
  remaining : ℚ
  retryAfterMs : ℚ

abbrev Entries := JsString → Option RateLimitEntry

variable (entry : RateLimitEntry)

def slideWindow (now : ℚ) : RateLimitEntry :=
  { entry with attempts := slide config.windowMs now entry.attempts }

def clearLock : RateLimitEntry :=
  if entry.lock.isSome then { attempts := [], lockedUntil := none } else entry

def checkEntry (now : ℚ) : RateLimitCheckResult × RateLimitEntry :=
  match entry.lock.filter fun lockedUntil => now < lockedUntil with
  | some lockedUntil =>
    ({ allowed := false, remaining := 0, retryAfterMs := lockedUntil - now }, entry)
  | none =>
    let entry := slideWindow config (clearLock entry) now
    let remaining := max 0 (config.maxAttempts - entry.attempts.length)
    ({ allowed := 0 < remaining, remaining, retryAfterMs := 0 }, entry)

variable (entries : Entries) (rawIp : Option JsString)

def check (rawScope : Option JsString) (now : ℚ) : RateLimitCheckResult × Entries :=
  let key := resolveKey host rawIp rawScope
  let open_ : RateLimitCheckResult :=
    { allowed := true, remaining := config.maxAttempts, retryAfterMs := 0 }
  if isExempt host config (normalizeRateLimitClientIp host rawIp) then (open_, entries)
  else
    match entries key with
    | none => (open_, entries)
    | some entry =>
      let checked := checkEntry config entry now
      (checked.1, Function.update entries key (some checked.2))

def recordEntry (now : ℚ) : RateLimitEntry :=
  if entry.isLocked now then entry
  else
    let attempts := slide config.windowMs now entry.attempts ++ [now]
    if config.maxAttempts ≤ attempts.length then
      { attempts, lockedUntil := some (now + config.lockoutMs) }
    else { entry with attempts }

def recordFailure (rawScope : Option JsString) (now : ℚ) : Entries :=
  let key := resolveKey host rawIp rawScope
  if isExempt host config (normalizeRateLimitClientIp host rawIp) then entries
  else
    let entry := (entries key).getD { attempts := [], lockedUntil := none }
    Function.update entries key (some (recordEntry config entry now))

def reset (rawScope : Option JsString) : Entries :=
  Function.update entries (resolveKey host rawIp rawScope) none

def pruneEntry (now : ℚ) : Option RateLimitEntry :=
  if entry.isLocked now then some entry
  else if (slideWindow config entry now).attempts = [] then none
  else some (slideWindow config entry now)

def prune (now : ℚ) : Entries :=
  fun key => (entries key).bind fun entry => pruneEntry config entry now

inductive Operation where
  | check (rawIp rawScope : Option JsString) (now : ℚ)
  | recordFailure (rawIp rawScope : Option JsString) (now : ℚ)
  | reset (rawIp rawScope : Option JsString) (now : ℚ)
  | prune (now : ℚ)

def Operation.now : Operation → ℚ
  | check _ _ now => now
  | recordFailure _ _ now => now
  | reset _ _ now => now
  | prune now => now

/-- The limiter, the time of the last operation, and the address and scope of that operation
if it was a check that allowed them. -/
structure State where
  entries : Entries := fun _ => none
  clock : ℚ := 0
  allowed : Option (Option JsString × Option JsString) := none

/-- An operation no earlier than the one before; a failure is recorded right after a check
that allowed the attempt. -/
def step (state : State) (operation : Operation) : Option State :=
  if operation.now < state.clock then none
  else
    match operation with
    | .check rawIp rawScope now =>
      let checked := check host config state.entries rawIp rawScope now
      some
        { entries := checked.2
          clock := now
          allowed := if checked.1.allowed then some (rawIp, rawScope) else none }
    | .recordFailure rawIp rawScope now =>
      if state.allowed = some (rawIp, rawScope) then
        some
          { entries := recordFailure host config state.entries rawIp rawScope now
            clock := now
            allowed := none }
      else none
    | .reset rawIp rawScope now =>
      some { entries := reset host state.entries rawIp rawScope, clock := now, allowed := none }
    | .prune now =>
      some { entries := prune config state.entries now, clock := now, allowed := none }

end LittleBaby.AuthRateLimit
