import LittleBaby.JsString
import Mathlib.Data.Int.Init
import Mathlib.Order.Lattice

/-!
# Cron schedules

The three kinds of schedule and the time each one names next.  Times are
milliseconds since the epoch.  The date parser, the evaluator of cron
expressions and the digest of a job id come from libraries; they are the
fields of `ScheduleDeps`.
-/

namespace LittleBaby.Cron

open JsString

inductive CronSchedule
  | atTime (at_ : JsString)
  | every (everyMs : ℤ) (anchorMs : Option ℤ)
  | cron (expr : JsString) (tz : Option JsString) (staggerMs : Option ℤ)
deriving DecidableEq

/-- `schedule.kind === "at"`. -/
def CronSchedule.isAt : CronSchedule → Bool
  | .atTime _ => true
  | _ => false

def CronSchedule.isCron : CronSchedule → Bool
  | .cron .. => true
  | _ => false

def CronSchedule.isEvery : CronSchedule → Bool
  | .every .. => true
  | _ => false

/-- What the schedules need of libraries: `Date.parse`, the two searches of an
evaluated cron expression in a time zone, each of which may throw, the local
time zone, and the first four bytes of the SHA-256 digest of a job id. -/
structure ScheduleDeps where
  dateParse : JsString → Option ℤ
  cronNextRun : JsString → JsString → ℤ → Except JsString (Option ℤ)
  cronPreviousRun : JsString → JsString → ℤ → Except JsString (Option ℤ)
  localTimeZone : JsString
  digest : String → ℕ

def isDigit (unit : UInt16) : Bool := 48 ≤ unit && unit ≤ 57

def digitsValue (digits : JsString) : ℤ :=
  digits.foldl (fun value unit => value * 10 + ((unit.toNat : ℤ) - 48)) 0

variable (deps : ScheduleDeps) (expr : JsString) (raw : JsString)

/-- `/(Z|[+-]\d{2}:?\d{2})$/i`. -/
def endsWithZone : Bool :=
  match raw.reverse with
  | m₂ :: m₁ :: 58 :: h₂ :: h₁ :: sign :: _ =>
    m₂ == 90 || m₂ == 122 || ([m₂, m₁, h₂, h₁].all isDigit && (sign == 43 || sign == 45))
  | m₂ :: m₁ :: h₂ :: h₁ :: sign :: _ =>
    m₂ == 90 || m₂ == 122 || ([m₂, m₁, h₂, h₁].all isDigit && (sign == 43 || sign == 45))
  | last :: _ => last == 90 || last == 122
  | [] => false

/-- `/^\d{4}-\d{2}-\d{2}/`. -/
def startsWithDate : Bool :=
  (raw.take 4).length == 4 && (raw.take 4).all isDigit && raw[4]? == some 45 &&
    ((raw.drop 5).take 2).length == 2 && ((raw.drop 5).take 2).all isDigit &&
    raw[7]? == some 45 &&
    ((raw.drop 8).take 2).length == 2 && ((raw.drop 8).take 2).all isDigit

def normalizeUtcIso : JsString :=
  if endsWithZone raw then raw
  else if startsWithDate raw && raw.length == 10 then raw ++ js "T00:00:00Z"
  else if startsWithDate raw && raw[10]? == some 84 then raw ++ js "Z"
  else raw

def parseAbsoluteTimeMs (input : JsString) : Option ℤ :=
  let raw := trim input
  if raw = [] then none
  else if raw.all isDigit && 0 < digitsValue raw then some (digitsValue raw)
  else deps.dateParse (normalizeUtcIso raw)

def defaultTopOfHourStaggerMs : ℤ := 5 * 60 * 1000

def parseCronFields : List JsString := ((trim expr).splitOnP isSpace).filter (· ≠ [])

def isRecurringTopOfHourCronExpr : Bool :=
  match parseCronFields expr with
  | [minuteField, hourField, _, _, _] =>
    minuteField == js "0" && includes hourField (js "*")
  | [secondField, minuteField, hourField, _, _, _] =>
    secondField == js "0" && minuteField == js "0" && includes hourField (js "*")
  | _ => false

def normalizeCronStaggerMs (raw : Option ℤ) : Option ℤ := raw.map (max 0)

def resolveDefaultCronStaggerMs : Option ℤ :=
  if isRecurringTopOfHourCronExpr expr then some defaultTopOfHourStaggerMs
  else none

def resolveCronStaggerMs (staggerMs : Option ℤ) : ℤ :=
  (normalizeCronStaggerMs staggerMs).getD ((resolveDefaultCronStaggerMs expr).getD 0)

def resolveStableCronOffsetMs (jobId : String) (staggerMs : ℤ) : ℤ :=
  if staggerMs ≤ 1 then 0 else (deps.digest jobId : ℤ) % staggerMs

/-- `normalizeOptionalString(tz) ?? ""`, or the local time zone. -/
def resolveCronTimezone (tz : Option JsString) : JsString :=
  (orElse (tz.map trim) none).getD deps.localTimeZone

def nextSecondMs (nowMs : ℤ) : ℤ := nowMs / 1000 * 1000 + 1000

/-- `new Date(nowMs).setUTCHours(24, 0, 0, 0)`. -/
def tomorrowMs (nowMs : ℤ) : ℤ := nowMs / 86400000 * 86400000 + 86400000

def computeNextRunAtMs (schedule : CronSchedule) (nowMs : ℤ) : Except JsString (Option ℤ) :=
  match schedule with
  | .atTime at_ =>
    .ok ((parseAbsoluteTimeMs deps at_).filter (nowMs < ·))
  | .every everyMs anchorMs =>
    let everyMs := max 1 everyMs
    let anchor := max 0 (anchorMs.getD nowMs)
    if nowMs < anchor then .ok (some anchor)
    else
      let steps := max 1 ((nowMs - anchor + everyMs - 1) / everyMs)
      .ok (some (anchor + steps * everyMs))
  | .cron expr tz _ =>
    if trim expr = [] then .ok none
    else do
      let nextRun := deps.cronNextRun (trim expr) (resolveCronTimezone deps tz)
      match ← nextRun nowMs with
      | none => return none
      | some nextMs =>
        if nextMs ≤ nowMs then
          -- The evaluator may go back a year: retry from later times.
          let retry ← nextRun (nextSecondMs nowMs)
          if (retry.filter (nowMs < ·)).isSome then return retry
          let retry2 ← nextRun (tomorrowMs nowMs)
          return retry2.filter (nowMs < ·)
        return some nextMs

def computePreviousRunAtMs (schedule : CronSchedule) (nowMs : ℤ) : Except JsString (Option ℤ) :=
  match schedule with
  | .cron expr tz _ =>
    if trim expr = [] then .ok none
    else do
      let previous ← deps.cronPreviousRun (trim expr) (resolveCronTimezone deps tz) nowMs
      return previous.filter (· < nowMs)
  | _ => .ok none

end LittleBaby.Cron
