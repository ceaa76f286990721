import LittleBaby.DevicePairing

/-!
# Histories of the device store

A step is one operation under the lock.  The history keeps, next to the file,
the request ids that were generated, which `randomUUID` never repeats, and what
happened to the tokens of each device and role.
-/

namespace LittleBaby.Pairing

open JsString PendingLedger

inductive DeviceAction where
  | request (req : DevicePairingRequest) (requestId : JsString) (loadedAt now : Clock)
  | approve (requestId : JsString) (callerScopes : Option (List JsString))
      (newToken : JsString → JsString) (loadedAt now : Clock)
  | approveBootstrap (requestId : JsString) (profile : DeviceBootstrapProfile)
      (newToken : JsString → JsString) (loadedAt now : Clock)
  | reject (requestId : JsString) (loadedAt : Clock)
  | remove (deviceId : JsString) (loadedAt : Clock)
  | clear (deviceId : JsString) (loadedAt : Clock)
  | verify (deviceId token role : JsString) (scopes : List JsString) (loadedAt now : Clock)
  | ensure (deviceId role : JsString) (scopes : List JsString)
      (newToken : JsString) (loadedAt now : Clock)
  | rotate (deviceId role : JsString) (scopes : Option (List JsString))
      (newToken : JsString) (loadedAt now : Clock)
  | revoke (deviceId role : JsString) (loadedAt now : Clock)

inductive TokenEvent where
  | issued (deviceId role token : JsString)
  | revoked (deviceId role : JsString)
  | removed (deviceId : JsString)
  deriving DecidableEq

def TokenEvent.concerns (deviceId role : JsString) : TokenEvent → Bool
  | .issued device other _ | .revoked device other =>
    decide (device = deviceId ∧ other = role)
  | .removed device => decide (device = deviceId)

def approvalEvents (roles : List JsString) : Option ApproveDevicePairingResult → List TokenEvent
  | some (.approved _ device) =>
    roles.filterMap fun role =>
      (device.tokens.bind (·.get? role)).map fun entry =>
        .issued device.deviceId role entry.token
  | _ => []

structure DeviceHistory where
  file : DevicePairingStateFile
  requestIds : List JsString
  events : List TokenEvent

namespace DeviceHistory

def empty : DeviceHistory := ⟨.empty, [], []⟩

variable (history : DeviceHistory)

def requestedRoles (requestId : JsString) (loadedAt : Clock) : List JsString :=
  (((history.file.loadState loadedAt).pendingById.get? requestId).map
    fun pending => resolveRequestedRoles pending.toDevicePairingRequest).getD []

/-- The history after an operation that wrote `file`. -/
def after (file : DevicePairingStateFile) (events : List TokenEvent) : DeviceHistory :=
  { history with file := file, events := events ++ history.events }

def step : DeviceAction → Option DeviceHistory
  | .request req requestId loadedAt now =>
    if requestId ∈ history.requestIds then none
    else
      match requestDevicePairing history.file req requestId loadedAt now with
      | none => some history
      | some (file, result) =>
        some { history with
          file := file
          requestIds :=
            if result.created then requestId :: history.requestIds
            else history.requestIds }
  | .approve requestId callerScopes newToken loadedAt now =>
    let outcome := approveDevicePairing history.file requestId callerScopes newToken loadedAt now
    some (history.after outcome.1 (approvalEvents
      (history.requestedRoles requestId loadedAt) outcome.2))
  | .approveBootstrap requestId profile newToken loadedAt now =>
    let outcome := approveBootstrapDevicePairing history.file requestId
      profile newToken loadedAt now
    some (history.after outcome.1 (approvalEvents
      ((mergeRoles [some profile.roles]).getD []) outcome.2))
  | .reject requestId loadedAt =>
    some (history.after (rejectDevicePairing history.file requestId loadedAt).1 [])
  | .remove deviceId loadedAt =>
    let outcome := removePairedDevice history.file deviceId loadedAt
    some (history.after outcome.1 (outcome.2.toList.map .removed))
  | .clear deviceId loadedAt =>
    let outcome := clearDevicePairing history.file deviceId loadedAt
    some (history.after outcome.1 (if outcome.2 then [.removed (trim deviceId)] else []))
  | .verify deviceId token role scopes loadedAt now =>
    some (history.after
      (verifyDeviceToken history.file deviceId token role scopes loadedAt now).1 [])
  | .ensure deviceId role scopes newToken loadedAt now =>
    let outcome := ensureDeviceToken history.file deviceId role scopes newToken loadedAt now
    -- a token that is already stored is returned, not issued
    some (history.after outcome.1
      (if history.file.token? (trim deviceId) (trim role) = outcome.2 then []
      else outcome.2.toList.map fun entry =>
        .issued (trim deviceId) (trim role) entry.token))
  | .rotate deviceId role scopes newToken loadedAt now =>
    let outcome := rotateDeviceToken history.file deviceId role scopes newToken loadedAt now
    some (history.after outcome.1 (outcome.2.toOption.toList.map fun entry =>
        .issued (trim deviceId) (trim role) entry.token))
  | .revoke deviceId role loadedAt now =>
    let outcome := revokeDeviceToken history.file deviceId role loadedAt now
    some (history.after outcome.1
      (outcome.2.toList.map fun _ => .revoked (trim deviceId) (trim role)))

end DeviceHistory

end LittleBaby.Pairing
