import LittleBaby.DeviceScopes
import LittleBaby.PairingFiles
import Mathlib.Data.PNat.Basic

/-!
# Device pairing

The pairing store of the gateway: pending requests by request id and paired
devices by device id, read from their files at the start of an operation and
written back at its end, one operation after the other.
-/

namespace LittleBaby.Pairing

open JsString

/-- A reading of `Date.now()`; the epoch lies in the past. -/
abbrev Clock := ℕ+

structure DeviceMetadata where
  displayName : Option JsString := none
  platform : Option JsString := none
  deviceFamily : Option JsString := none
  clientId : Option JsString := none
  clientMode : Option JsString := none
  remoteIp : Option JsString := none

def DeviceMetadata.refresh (existing incoming : DeviceMetadata) : DeviceMetadata where
  displayName := incoming.displayName.or existing.displayName
  platform := incoming.platform.or existing.platform
  deviceFamily := incoming.deviceFamily.or existing.deviceFamily
  clientId := incoming.clientId.or existing.clientId
  clientMode := incoming.clientMode.or existing.clientMode
  remoteIp := incoming.remoteIp.or existing.remoteIp

/-- `Omit<DevicePairingPendingRequest, "requestId" | "ts" | "isRepair">`. -/
structure DevicePairingRequest where
  deviceId : JsString
  publicKey : JsString
  metadata : DeviceMetadata := {}
  role : Option JsString := none
  roles : Option (List JsString) := none
  scopes : Option (List JsString) := none
  silent : Option Bool := none

structure DevicePairingPendingRequest extends DevicePairingRequest where
  requestId : JsString
  isRepair : Bool
  ts : ℕ

structure DeviceAuthToken where
  token : JsString
  role : JsString
  scopes : List JsString
  createdAtMs : ℕ
  rotatedAtMs : Option ℕ
  revokedAtMs : Option ℕ
  lastUsedAtMs : Option ℕ
  deriving DecidableEq

structure PairedDevice where
  deviceId : JsString
  publicKey : JsString
  metadata : DeviceMetadata
  role : Option JsString
  roles : Option (List JsString)
  scopes : Option (List JsString)
  approvedScopes : Option (List JsString)
  tokens : Option (InsertionMap JsString DeviceAuthToken)
  createdAtMs : ℕ
  approvedAtMs : ℕ

structure DevicePairingStateFile where
  pendingById : InsertionMap JsString DevicePairingPendingRequest
  pairedByDeviceId : InsertionMap JsString PairedDevice

def DevicePairingStateFile.empty : DevicePairingStateFile := ⟨.empty, .empty⟩

inductive DevicePairingForbiddenReason where
  | callerScopesRequired
  | callerMissingScope
  | scopeOutsideRequestedRoles
  | bootstrapRoleNotAllowed
  | bootstrapScopeNotAllowed

structure DevicePairingForbiddenResult where
  reason : DevicePairingForbiddenReason
  scope : Option JsString := none
  role : Option JsString := none

/-- The outcome of an approval; `null` is `none` around it. -/
inductive ApproveDevicePairingResult where
  | approved (requestId : JsString) (device : PairedDevice)
  | forbidden (result : DevicePairingForbiddenResult)

def pendingTtlMs : ℕ := 5 * 60 * 1000

/-- An entry that is neither missing, nor `undefined`, nor revoked at 0. -/
def DeviceAuthToken.isRevoked (entry : DeviceAuthToken) : Bool :=
  entry.revokedAtMs.any fun revokedAtMs => decide (revokedAtMs ≠ 0)

namespace DevicePairingStateFile

def loadState (file : DevicePairingStateFile) (now : Clock) :
    DevicePairingStateFile :=
  { file with
    pendingById := pruneExpiredPending (·.ts) file.pendingById now pendingTtlMs }

end DevicePairingStateFile

variable (file : DevicePairingStateFile)

def DevicePairingStateFile.token? (deviceId role : JsString) : Option DeviceAuthToken :=
  (file.pairedByDeviceId.get? deviceId).bind fun device =>
    device.tokens.bind (·.get? role)

def listApprovedPairedDeviceRoles (device : PairedDevice) : List JsString :=
  (mergeRoles [device.roles, oneRole device.role]).getD []

def resolveRequestedRoles (input : DevicePairingRequest) : List JsString :=
  (mergeRoles [input.roles, oneRole input.role]).getD []

def resolveRequestedScopes (input : DevicePairingRequest) : List JsString :=
  normalizeDeviceAuthScopes input.scopes

def samePendingApprovalSnapshot (existing : DevicePairingPendingRequest)
    (incoming : DevicePairingRequest) : Bool :=
  decide (existing.publicKey = incoming.publicKey) &&
    decide (normalizeRole existing.role = normalizeRole incoming.role) &&
    sameStringSet (resolveRequestedRoles existing.toDevicePairingRequest)
      (resolveRequestedRoles incoming) &&
    sameStringSet (resolveRequestedScopes existing.toDevicePairingRequest)
      (resolveRequestedScopes incoming)

def refreshPendingDevicePairingRequest (existing : DevicePairingPendingRequest)
    (incoming : DevicePairingRequest) (isRepair : Bool) :
    DevicePairingPendingRequest :=
  { existing with
    publicKey := incoming.publicKey
    metadata := existing.metadata.refresh incoming.metadata
    silent := some (existing.silent.getD false && incoming.silent.getD false)
    isRepair := existing.isRepair || isRepair
    ts := existing.ts }

def resolveSupersededPendingSilent (existing : List DevicePairingPendingRequest)
    (incomingSilent : Option Bool) : Bool :=
  incomingSilent.getD false && existing.all fun pending => decide (pending.silent = some true)

def buildPendingDevicePairingRequest (requestId deviceId : JsString)
    (isRepair : Bool) (req : DevicePairingRequest) (now : Clock) :
    DevicePairingPendingRequest where
  requestId := requestId
  deviceId := deviceId
  publicKey := req.publicKey
  metadata := req.metadata
  role := normalizeRole req.role
  roles := mergeRoles [req.roles, oneRole (normalizeRole req.role)]
  scopes := mergeScopes [req.scopes]
  silent := req.silent
  isRepair := isRepair
  ts := now

def buildReplacementRequest (requestId deviceId : JsString) (isRepair : Bool)
    (now : Clock) (existing : List DevicePairingPendingRequest)
    (incoming : DevicePairingRequest) : DevicePairingPendingRequest :=
  let mergedRoles := mergeRoles
    (existing.flatMap (fun pending => [pending.roles, oneRole pending.role]) ++
      [incoming.roles, oneRole incoming.role])
  let mergedScopes := mergeScopes
    (existing.map (fun pending => pending.scopes) ++ [incoming.scopes])
  buildPendingDevicePairingRequest requestId deviceId isRepair { incoming with
      role := (normalizeRole incoming.role).or
        (existing.head?.bind fun latestPending => latestPending.role)
      roles := mergedRoles
      scopes := mergedScopes
      silent := some (resolveSupersededPendingSilent existing incoming.silent) }
    now

/-- `randomUUID()` answers `requestId`.  `none` stands for the error "deviceId
required". -/
def requestDevicePairing
    (req : DevicePairingRequest) (requestId : JsString) (loadedAt now : Clock) :
    Option (DevicePairingStateFile × PendingPairingRequestResult DevicePairingPendingRequest) :=
  let state := file.loadState loadedAt
  (nonBlank req.deviceId).map fun deviceId =>
    let isRepair := state.pairedByDeviceId.has deviceId
    let reconciled := reconcilePendingPairingRequests (·.requestId) state.pendingById
      (pendingFor (·.ts) (·.deviceId) state.pendingById deviceId) req
      samePendingApprovalSnapshot
      (fun existing incoming =>
        refreshPendingDevicePairingRequest existing incoming isRepair)
      (buildReplacementRequest requestId deviceId isRepair now)
    ({ state with pendingById := reconciled.1 }, reconciled.2)

def resolveRoleScopedDeviceTokenScopes (role : JsString)
    (scopes : Option (List JsString)) : List JsString :=
  if role = operatorRole then
    (normalizeDeviceAuthScopes scopes).filter isOperatorScope
  else
    (normalizeDeviceAuthScopes scopes).filter fun scope =>
      !isOperatorScope scope

def resolveApprovedTokenScopes (role : JsString) (pending : DevicePairingPendingRequest)
    (existingToken : Option DeviceAuthToken)
    (approvedScopes : Option (List JsString))
    (existing : Option PairedDevice) : List JsString :=
  let requestedScopes := resolveRoleScopedDeviceTokenScopes role pending.scopes
  if requestedScopes ≠ [] then requestedScopes
  else
    resolveRoleScopedDeviceTokenScopes role ((existingToken.map (·.scopes)).or (approvedScopes.or
        ((existing.bind (·.approvedScopes)).or (existing.bind (·.scopes)))))

def approvedDeviceToken (newToken : JsString → JsString) (pending : DevicePairingPendingRequest)
    (approvedScopes : Option (List JsString)) (existing : Option PairedDevice)
    (now : Clock) (role : JsString) (existingToken : Option DeviceAuthToken) :
    DeviceAuthToken where
  token := newToken role
  role := role
  scopes := resolveApprovedTokenScopes role pending existingToken approvedScopes existing
  createdAtMs := (existingToken.map (·.createdAtMs)).getD now
  rotatedAtMs := existingToken.map fun _ => (now : ℕ)
  revokedAtMs := none
  lastUsedAtMs := existingToken.bind (·.lastUsedAtMs)

def buildDeviceAuthToken (token role : JsString) (scopes : List JsString)
    (existing : Option DeviceAuthToken) (now : Clock)
    (rotatedAtMs : Option ℕ) : DeviceAuthToken where
  token := token
  role := role
  scopes := scopes
  createdAtMs := (existing.map (·.createdAtMs)).getD now
  rotatedAtMs := rotatedAtMs
  revokedAtMs := none
  lastUsedAtMs := existing.bind (·.lastUsedAtMs)

/-- `device.approvedScopes ?? device.scopes`. -/
def PairedDevice.baseline (device : PairedDevice) : Option (List JsString) :=
  device.approvedScopes.or device.scopes

variable (state : DevicePairingStateFile) (pending : DevicePairingPendingRequest)

def approvedDevice (existing : Option PairedDevice) (roles approvedScopes : Option (List JsString))
    (tokens : InsertionMap JsString DeviceAuthToken) (now : Clock) :
    PairedDevice where
  deviceId := pending.deviceId
  publicKey := pending.publicKey
  metadata := pending.metadata
  role := pending.role
  roles := roles
  scopes := approvedScopes
  approvedScopes := approvedScopes
  tokens := some tokens
  createdAtMs := (existing.map (·.createdAtMs)).getD now
  approvedAtMs := now

/-- The state in which the request has been approved as `device`. -/
def DevicePairingStateFile.approve
    (requestId : JsString) (device : PairedDevice) : DevicePairingStateFile where
  pendingById := state.pendingById.delete requestId
  pairedByDeviceId := state.pairedByDeviceId.set device.deviceId device

/-- Why `approveDevicePairing` refuses the request, if it does. -/
def approvalRefusal (callerScopes : Option (List JsString)) : Option DevicePairingForbiddenResult :=
  let requestedScopes := normalizeDeviceAuthScopes pending.scopes
  match resolveScopeOutsideRequestedRoles
      (resolveRequestedRoles pending.toDevicePairingRequest) requestedScopes with
  | some scope => some ⟨.scopeOutsideRequestedRoles, some scope, none⟩
  | none =>
    let requestedOperatorScopes := requestedScopes.filter isOperatorScope
    if requestedOperatorScopes = [] then none
    else
      match callerScopes with
      | none =>
        some ⟨.callerScopesRequired, requestedOperatorScopes.head?, none⟩
      | some callerScopes =>
        (resolveMissingRequestedScope operatorRole requestedOperatorScopes
          callerScopes).map fun scope =>
            ⟨.callerMissingScope, some scope, none⟩

/-- The device that `approveDevicePairing` stores for the request. -/
def approvalDevice (newToken : JsString → JsString) (now : Clock) : PairedDevice :=
  let existing := state.pairedByDeviceId.get? pending.deviceId
  let roles := mergeRoles [existing.bind (·.roles), oneRole (existing.bind (·.role)), pending.roles,
      oneRole pending.role]
  let approvedScopes := mergeScopes [existing.bind (·.baseline), pending.scopes]
  let tokens := ((existing.bind (·.tokens)).getD .empty).setAll
    (approvedDeviceToken newToken pending approvedScopes existing now)
    (resolveRequestedRoles pending.toDevicePairingRequest)
  approvedDevice pending existing roles approvedScopes tokens now

/-- `newToken()` answers `newToken role` for the token of `role`. -/
def approveDevicePairing (requestId : JsString)
    (callerScopes : Option (List JsString)) (newToken : JsString → JsString)
    (loadedAt now : Clock) :
    DevicePairingStateFile × Option ApproveDevicePairingResult :=
  let state := file.loadState loadedAt
  match state.pendingById.get? requestId with
  | none => (file, none)
  | some pending =>
    match approvalRefusal pending callerScopes with
    | some refusal => (file, some (.forbidden refusal))
    | none =>
      let device := approvalDevice state pending newToken now
      (state.approve requestId device, some (.approved requestId device))

/-- Why `approveBootstrapDevicePairing` refuses the request, if it does. -/
def bootstrapRefusal (approvedRoles approvedScopes : List JsString) :
    Option DevicePairingForbiddenResult :=
  let requestedRoles := resolveRequestedRoles pending.toDevicePairingRequest
  match requestedRoles.find? fun role => !decide (role ∈ approvedRoles) with
  | some missingRole =>
    some ⟨.bootstrapRoleNotAllowed, none, some missingRole⟩
  | none =>
    let requestedOperatorScopes := (normalizeDeviceAuthScopes pending.scopes).filter isOperatorScope
    (resolveMissingRequestedScope operatorRole requestedOperatorScopes
      approvedScopes).map fun scope =>
        ⟨.bootstrapScopeNotAllowed, some scope, none⟩

def bootstrapDeviceToken (newToken : JsString → JsString)
    (approvedScopes : List JsString) (now : Clock) (role : JsString)
    (existingToken : Option DeviceAuthToken) : DeviceAuthToken :=
  buildDeviceAuthToken (newToken role) role (if role = operatorRole then
      resolveBootstrapProfileScopesForRole role approvedScopes
    else [])
    existingToken now (existingToken.map fun _ => (now : ℕ))

/-- The device that `approveBootstrapDevicePairing` stores. -/
def bootstrapDevice (approvedRoles approvedScopes : List JsString)
    (newToken : JsString → JsString) (now : Clock) : PairedDevice :=
  let existing := state.pairedByDeviceId.get? pending.deviceId
  let roles := mergeRoles [existing.bind (·.roles), oneRole (existing.bind (·.role)), pending.roles,
      oneRole pending.role, some approvedRoles]
  let nextApprovedScopes := mergeScopes
    [existing.bind (·.baseline), pending.scopes, some approvedScopes]
  let tokens := ((existing.bind (·.tokens)).getD .empty).setAll
    (bootstrapDeviceToken newToken approvedScopes now) approvedRoles
  approvedDevice pending existing roles nextApprovedScopes tokens now

def approveBootstrapDevicePairing (requestId : JsString) (bootstrapProfile : DeviceBootstrapProfile)
    (newToken : JsString → JsString) (loadedAt now : Clock) :
    DevicePairingStateFile × Option ApproveDevicePairingResult :=
  let approvedRoles := (mergeRoles [some bootstrapProfile.roles]).getD []
  let approvedScopes := normalizeDeviceAuthScopes (some bootstrapProfile.scopes)
  let state := file.loadState loadedAt
  match state.pendingById.get? requestId with
  | none => (file, none)
  | some pending =>
    match bootstrapRefusal pending approvedRoles approvedScopes with
    | some refusal => (file, some (.forbidden refusal))
    | none =>
      let device := bootstrapDevice state pending approvedRoles approvedScopes newToken now
      (state.approve requestId device, some (.approved requestId device))

def rejectDevicePairing (requestId : JsString)
    (loadedAt : Clock) : DevicePairingStateFile × Option (JsString × JsString) :=
  let state := file.loadState loadedAt
  match rejectPendingPairingRequest state.pendingById requestId with
  | none => (file, none)
  | some (pendingById, pending) =>
    ({ state with pendingById := pendingById }, some (requestId, pending.deviceId))

def removePairedDevice (deviceId : JsString)
    (loadedAt : Clock) : DevicePairingStateFile × Option JsString :=
  let state := file.loadState loadedAt
  let normalized := trim deviceId
  if normalized = [] ∨ state.pairedByDeviceId.has normalized = false then
    (file, none)
  else
    ({ state with
        pairedByDeviceId := state.pairedByDeviceId.delete normalized },
      some normalized)

def clearDevicePairing (deviceId : JsString) (loadedAt : Clock) : DevicePairingStateFile × Bool :=
  let state := file.loadState loadedAt
  let normalizedId := trim deviceId
  if state.pairedByDeviceId.has normalizedId = false then (file, false)
  else
    ({ state with
        pairedByDeviceId := state.pairedByDeviceId.delete normalizedId },
      true)

def resolveApprovedDeviceScopeBaseline (device : PairedDevice) : Option (List JsString) :=
  device.baseline.map fun baseline => normalizeDeviceAuthScopes (some baseline)

def scopesWithinApprovedDeviceBaseline (role : JsString)
    (scopes : List JsString) (approvedScopes : Option (List JsString)) : Bool :=
  match approvedScopes with
  | none => false
  | some approvedScopes => roleScopesAllow role scopes approvedScopes

inductive VerifyDeviceTokenResult where
  | ok
  | deviceNotPaired
  | roleMissing
  | tokenMissing
  | tokenRevoked
  | tokenMismatch
  | scopeMismatch

def verifyPairingToken (provided expected : JsString) : Bool :=
  if trim provided = [] ∨ trim expected = [] then false
  else decide (provided = expected)

/-- The state with `entry` as the token of the device's role. -/
def DevicePairingStateFile.putToken
    (device : PairedDevice) (role : JsString) (entry : DeviceAuthToken) :
    DevicePairingStateFile :=
  { state with
    pairedByDeviceId := state.pairedByDeviceId.set device.deviceId { device with
        tokens := some ((device.tokens.getD .empty).set role entry) } }

def verifyDeviceToken (deviceId token role : JsString) (scopes : List JsString)
    (loadedAt now : Clock) : DevicePairingStateFile × VerifyDeviceTokenResult :=
  let state := file.loadState loadedAt
  match state.pairedByDeviceId.get? (trim deviceId) with
  | none => (file, .deviceNotPaired)
  | some device =>
    match normalizeRole (some role) with
    | none => (file, .roleMissing)
    | some role =>
      match device.tokens.bind (·.get? role) with
      | none => (file, .tokenMissing)
      | some entry =>
        if entry.isRevoked then (file, .tokenRevoked)
        else if !verifyPairingToken token entry.token then
          (file, .tokenMismatch)
        else if !scopesWithinApprovedDeviceBaseline role entry.scopes
            (resolveApprovedDeviceScopeBaseline device) then
          (file, .scopeMismatch)
        else if !roleScopesAllow role (normalizeDeviceAuthScopes (some scopes)) entry.scopes then
          (file, .scopeMismatch)
        else
          (state.putToken device role { entry with lastUsedAtMs := some now }, .ok)

structure DeviceTokenUpdateContext where
  device : PairedDevice
  role : JsString
  existing : Option DeviceAuthToken

def resolveDeviceTokenUpdateContext (deviceId role : JsString) : Option DeviceTokenUpdateContext :=
  match state.pairedByDeviceId.get? (trim deviceId) with
  | none => none
  | some device =>
    match normalizeRole (some role) with
    | none => none
    | some role =>
      if role ∈ listApprovedPairedDeviceRoles device then
        some ⟨device, role, device.tokens.bind (·.get? role)⟩
      else none

def ensureDeviceToken (deviceId role : JsString)
    (scopes : List JsString) (newToken : JsString) (loadedAt now : Clock) :
    DevicePairingStateFile × Option DeviceAuthToken :=
  let state := file.loadState loadedAt
  let requestedScopes := normalizeDeviceAuthScopes (some scopes)
  match resolveDeviceTokenUpdateContext state deviceId role with
  | none => (file, none)
  | some ⟨device, role, existing⟩ =>
    let approvedScopes := resolveApprovedDeviceScopeBaseline device
    if !scopesWithinApprovedDeviceBaseline role requestedScopes approvedScopes then
      (file, none)
    else
      let kept := existing.filter fun entry =>
        !entry.isRevoked && (scopesWithinApprovedDeviceBaseline role entry.scopes approvedScopes &&
            roleScopesAllow role requestedScopes entry.scopes)
      match kept with
      | some entry => (file, some entry)
      | none =>
        let next := buildDeviceAuthToken newToken role requestedScopes
          existing now (existing.map fun _ => (now : ℕ))
        (state.putToken device role next, some next)

inductive RotateDeviceTokenDenyReason where
  | unknownDeviceOrRole
  | missingApprovedScopeBaseline
  | scopeOutsideApprovedBaseline

def rotateDeviceToken (deviceId role : JsString)
    (scopes : Option (List JsString)) (newToken : JsString)
    (loadedAt now : Clock) : DevicePairingStateFile ×
      Except RotateDeviceTokenDenyReason DeviceAuthToken :=
  let state := file.loadState loadedAt
  match resolveDeviceTokenUpdateContext state deviceId role with
  | none => (file, .error .unknownDeviceOrRole)
  | some ⟨device, role, existing⟩ =>
    let requestedScopes := normalizeDeviceAuthScopes
      (scopes.or ((existing.map (·.scopes)).or device.scopes))
    match resolveApprovedDeviceScopeBaseline device with
    | none => (file, .error .missingApprovedScopeBaseline)
    | some approvedScopes =>
      if !scopesWithinApprovedDeviceBaseline role requestedScopes (some approvedScopes) then
        (file, .error .scopeOutsideApprovedBaseline)
      else
        let next := buildDeviceAuthToken newToken role requestedScopes existing now (some now)
        (state.putToken device role next, .ok next)

def revokeDeviceToken (deviceId role : JsString)
    (loadedAt now : Clock) : DevicePairingStateFile × Option DeviceAuthToken :=
  let state := file.loadState loadedAt
  match state.pairedByDeviceId.get? (trim deviceId) with
  | none => (file, none)
  | some device =>
    match normalizeRole (some role) with
    | none => (file, none)
    | some role =>
      match device.tokens.bind (·.get? role) with
      | none => (file, none)
      | some entry =>
        let entry := { entry with revokedAtMs := some (now : ℕ) }
        (state.putToken device role entry, some entry)

def listDevicePairing (loadedAt : Clock) : List DevicePairingPendingRequest × List PairedDevice :=
  let state := file.loadState loadedAt
  (sortLatestFirst (·.ts) state.pendingById.values,
    sortLatestFirst (·.approvedAtMs) state.pairedByDeviceId.values)

end LittleBaby.Pairing
