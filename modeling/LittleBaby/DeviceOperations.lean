import LittleBaby.DevicePairing

/-!
# What each operation on the device store does

An operation either leaves the file as it is, or writes the loaded state with
one request or one device changed.
-/

namespace LittleBaby.Pairing

open JsString

variable {file file' : DevicePairingStateFile} {loadedAt now : Clock}

@[simp] theorem loadState_pairedByDeviceId :
    (file.loadState now).pairedByDeviceId = file.pairedByDeviceId := rfl

theorem get?_of_get?_loadState {id : JsString} {pending : DevicePairingPendingRequest}
    (hget : (file.loadState now).pendingById.get? id = some pending) :
    file.pendingById.get? id = some pending :=
  get?_of_get?_pruneExpiredPending hget

variable (state : DevicePairingStateFile)

@[simp] theorem approve_pairedByDeviceId (requestId : JsString) (device : PairedDevice) :
    (state.approve requestId device).pairedByDeviceId =
      state.pairedByDeviceId.set device.deviceId device := rfl

variable {role : JsString}

theorem normalizeRole_some {normalized : JsString}
    (hrole : normalizeRole (some role) = some normalized) :
    normalized = trim role := (nonBlank_eq_some.mp hrole).2.symm

variable {requestId : JsString}

theorem requestDevicePairing_eq_some {req : DevicePairingRequest}
    {result : PendingPairingRequestResult DevicePairingPendingRequest}
    (hrequest : requestDevicePairing file req requestId loadedAt now = some (file', result)) :
    ∃ deviceId, nonBlank req.deviceId = some deviceId ∧
      file'.pairedByDeviceId = file.pairedByDeviceId ∧
      reconcilePendingPairingRequests (·.requestId) (file.loadState loadedAt).pendingById
        (pendingFor (·.ts) (·.deviceId) (file.loadState loadedAt).pendingById
          deviceId) req samePendingApprovalSnapshot
        (fun existing incoming => refreshPendingDevicePairingRequest existing
          incoming (file.pairedByDeviceId.has deviceId))
        (buildReplacementRequest requestId deviceId (file.pairedByDeviceId.has deviceId) now) =
        (file'.pendingById, result) := by
  obtain ⟨deviceId, hdeviceId, hresult⟩ := Option.map_eq_some_iff.mp hrequest
  cases hresult
  exact ⟨deviceId, hdeviceId, rfl, rfl⟩

theorem approveDevicePairing_cases
    {callerScopes : Option (List JsString)} {newToken : JsString → JsString}
    {result : Option ApproveDevicePairingResult}
    (happrove : approveDevicePairing file requestId callerScopes newToken
      loadedAt now = (file', result)) :
    (file' = file ∧ ∀ id device, result ≠ some (.approved id device)) ∨
    ∃ pending, (file.loadState loadedAt).pendingById.get? requestId = some pending ∧
      approvalRefusal pending callerScopes = none ∧
      file' = (file.loadState loadedAt).approve requestId
        (approvalDevice (file.loadState loadedAt) pending newToken now) ∧
      result = some (.approved requestId
        (approvalDevice (file.loadState loadedAt) pending newToken now)) := by
  simp only [approveDevicePairing] at happrove
  split at happrove
  next =>
    cases happrove
    exact .inl ⟨rfl, by simp⟩
  next pending hpending =>
    split at happrove
    next refusal hrefusal =>
      cases happrove
      exact .inl ⟨rfl, by simp⟩
    next hrefusal =>
      cases happrove
      exact .inr ⟨pending, hpending, hrefusal, rfl, rfl⟩

theorem approveBootstrapDevicePairing_cases
    {profile : DeviceBootstrapProfile} {newToken : JsString → JsString}
    {approvedRoles approvedScopes : List JsString}
    (hroles : approvedRoles = (mergeRoles [some profile.roles]).getD [])
    (hscopes : approvedScopes = normalizeDeviceAuthScopes (some profile.scopes))
    {result : Option ApproveDevicePairingResult}
    (happrove : approveBootstrapDevicePairing file requestId profile newToken
      loadedAt now = (file', result)) :
    (file' = file ∧ ∀ id device, result ≠ some (.approved id device)) ∨
    ∃ pending, (file.loadState loadedAt).pendingById.get? requestId = some pending ∧
      bootstrapRefusal pending approvedRoles approvedScopes = none ∧
      file' = (file.loadState loadedAt).approve requestId
        (bootstrapDevice (file.loadState loadedAt) pending approvedRoles
          approvedScopes newToken now) ∧
      result = some (.approved requestId
        (bootstrapDevice (file.loadState loadedAt) pending approvedRoles
          approvedScopes newToken now)) := by
  subst hroles hscopes
  simp only [approveBootstrapDevicePairing] at happrove
  split at happrove
  next =>
    cases happrove
    exact .inl ⟨rfl, by simp⟩
  next pending hpending =>
    split at happrove
    next refusal hrefusal =>
      cases happrove
      exact .inl ⟨rfl, by simp⟩
    next hrefusal =>
      cases happrove
      exact .inr ⟨pending, hpending, hrefusal, rfl, rfl⟩

theorem rejectDevicePairing_cases {result : Option (JsString × JsString)}
    (hreject : rejectDevicePairing file requestId loadedAt = (file', result)) :
    file' = file ∨
    file' = { file.loadState loadedAt with
      pendingById := (file.loadState loadedAt).pendingById.delete requestId } := by
  simp only [rejectDevicePairing] at hreject
  split at hreject
  next => exact .inl (Prod.mk.inj hreject).1.symm
  next pendingById pending hrejected =>
    obtain ⟨_, -, hpair⟩ := Option.map_eq_some_iff.mp hrejected
    cases hpair
    exact .inr (Prod.mk.inj hreject).1.symm

variable {deviceId : JsString}

theorem removePairedDevice_cases {result : Option JsString}
    (hremove : removePairedDevice file deviceId loadedAt = (file', result)) :
    (file' = file ∧ result = none) ∨
    (file' = { file.loadState loadedAt with
        pairedByDeviceId := file.pairedByDeviceId.delete (trim deviceId) } ∧
      result = some (trim deviceId)) := by
  simp only [removePairedDevice] at hremove
  split at hremove
  next => exact .inl ⟨(Prod.mk.inj hremove).1.symm, (Prod.mk.inj hremove).2.symm⟩
  next => exact .inr ⟨(Prod.mk.inj hremove).1.symm, (Prod.mk.inj hremove).2.symm⟩

theorem clearDevicePairing_cases {cleared : Bool}
    (hclear : clearDevicePairing file deviceId loadedAt = (file', cleared)) :
    (file' = file ∧ cleared = false) ∨
    (file' = { file.loadState loadedAt with
        pairedByDeviceId := file.pairedByDeviceId.delete (trim deviceId) } ∧
      cleared = true) := by
  simp only [clearDevicePairing] at hclear
  split at hclear
  next => exact .inl ⟨(Prod.mk.inj hclear).1.symm, (Prod.mk.inj hclear).2.symm⟩
  next => exact .inr ⟨(Prod.mk.inj hclear).1.symm, (Prod.mk.inj hclear).2.symm⟩

theorem verifyDeviceToken_cases {token : JsString}
    {scopes : List JsString} {result : VerifyDeviceTokenResult}
    (hverify : verifyDeviceToken file deviceId token role scopes loadedAt now = (file', result)) :
    (file' = file ∧ result ≠ .ok) ∨
    ∃ device entry, file.pairedByDeviceId.get? (trim deviceId) = some device ∧
      device.tokens.bind (·.get? (trim role)) = some entry ∧
      entry.isRevoked = false ∧ token = entry.token ∧
      file' = (file.loadState loadedAt).putToken device (trim role)
        { entry with lastUsedAtMs := some now } ∧ result = .ok := by
  simp only [verifyDeviceToken, loadState_pairedByDeviceId] at hverify
  split at hverify
  next =>
    cases hverify
    exact .inl ⟨rfl, by simp⟩
  next device hdevice =>
    split at hverify
    next =>
      cases hverify
      exact .inl ⟨rfl, by simp⟩
    next normalized hnormalized =>
      obtain rfl := normalizeRole_some hnormalized
      split at hverify
      next =>
        cases hverify
        exact .inl ⟨rfl, by simp⟩
      next entry hentry =>
        split at hverify
        next =>
          cases hverify
          exact .inl ⟨rfl, by simp⟩
        next hrevoked =>
          split at hverify
          next =>
            cases hverify
            exact .inl ⟨rfl, by simp⟩
          next hmatches =>
            split at hverify
            next =>
              cases hverify
              exact .inl ⟨rfl, by simp⟩
            next =>
              split at hverify
              next =>
                cases hverify
                exact .inl ⟨rfl, by simp⟩
              next =>
                cases hverify
                have htoken : token = entry.token := by
                  simp only [verifyPairingToken] at hmatches
                  split at hmatches
                  next => simp at hmatches
                  next => simpa using hmatches
                exact .inr ⟨device, entry, hdevice, hentry,
                  by simpa using hrevoked, htoken, rfl, rfl⟩

theorem resolveDeviceTokenUpdateContext_eq_some {state : DevicePairingStateFile}
    {normalized : JsString} {device : PairedDevice}
    {existing : Option DeviceAuthToken}
    (hcontext : resolveDeviceTokenUpdateContext state deviceId role =
      some ⟨device, normalized, existing⟩) :
    state.pairedByDeviceId.get? (trim deviceId) = some device ∧ normalized = trim role ∧
      normalized ∈ listApprovedPairedDeviceRoles device ∧
      existing = device.tokens.bind (·.get? normalized) := by
  simp only [resolveDeviceTokenUpdateContext] at hcontext
  split at hcontext
  next => simp at hcontext
  next found hdevice =>
    split at hcontext
    next => simp at hcontext
    next name hnormalized =>
      split at hcontext
      next hrole =>
        simp only [Option.some.injEq, DeviceTokenUpdateContext.mk.injEq] at hcontext
        obtain ⟨rfl, rfl, rfl⟩ := hcontext
        exact ⟨hdevice, normalizeRole_some hnormalized, hrole, rfl⟩
      next => simp at hcontext

structure IssuedWithin (device : PairedDevice) (role : JsString)
    (entry : DeviceAuthToken) : Prop where
  role_eq : entry.role = role
  approvedRole : role ∈ listApprovedPairedDeviceRoles device
  notRevoked : entry.isRevoked = false
  normalized : ∀ scope ∈ entry.scopes, nonBlank scope = some scope
  scopes : scopesWithinApprovedDeviceBaseline role entry.scopes
    (resolveApprovedDeviceScopeBaseline device) = true

theorem ensureDeviceToken_cases {newToken : JsString}
    {scopes : List JsString} {result : Option DeviceAuthToken}
    (hensure : ensureDeviceToken file deviceId role scopes newToken loadedAt
      now = (file', result)) :
    (file' = file ∧ (result = none ∨ result = file.token? (trim deviceId) (trim role))) ∨
    ∃ device entry, file.pairedByDeviceId.get? (trim deviceId) = some device ∧
      IssuedWithin device (trim role) entry ∧
      file' = (file.loadState loadedAt).putToken device (trim role) entry ∧
      result = some entry := by
  simp only [ensureDeviceToken] at hensure
  split at hensure
  next =>
    cases hensure
    exact .inl ⟨rfl, .inl rfl⟩
  next device normalized existing hcontext =>
    obtain ⟨hdevice, rfl, hrole, hexisting⟩ := resolveDeviceTokenUpdateContext_eq_some hcontext
    split at hensure
    next =>
      cases hensure
      exact .inl ⟨rfl, .inl rfl⟩
    next hwithin =>
      split at hensure
      next entry hkept =>
        cases hensure
        have hstored := (Option.filter_eq_some_iff.mp hkept).1
        refine .inl ⟨rfl, .inr ?_⟩
        rw [← hstored, hexisting]
        simp only [loadState_pairedByDeviceId] at hdevice
        simp [DevicePairingStateFile.token?, hdevice]
      next =>
        cases hensure
        exact .inr ⟨device, _, hdevice, ⟨rfl, hrole, rfl,
            fun _ hscope => nonBlank_of_mem_normalizeDeviceAuthScopes hscope,
            by simpa [buildDeviceAuthToken] using hwithin⟩,
          rfl, rfl⟩

theorem rotateDeviceToken_cases {newToken : JsString} {scopes : Option (List JsString)}
    {result : Except RotateDeviceTokenDenyReason DeviceAuthToken}
    (hrotate : rotateDeviceToken file deviceId role scopes newToken loadedAt
      now = (file', result)) :
    (file' = file ∧ ∃ reason, result = .error reason) ∨
    ∃ device entry, file.pairedByDeviceId.get? (trim deviceId) = some device ∧
      IssuedWithin device (trim role) entry ∧
      file' = (file.loadState loadedAt).putToken device (trim role) entry ∧
      result = .ok entry := by
  simp only [rotateDeviceToken] at hrotate
  split at hrotate
  next =>
    cases hrotate
    exact .inl ⟨rfl, _, rfl⟩
  next device normalized existing hcontext =>
    obtain ⟨hdevice, rfl, hrole, hexisting⟩ := resolveDeviceTokenUpdateContext_eq_some hcontext
    split at hrotate
    next =>
      cases hrotate
      exact .inl ⟨rfl, _, rfl⟩
    next approvedScopes hbaseline =>
      split at hrotate
      next =>
        cases hrotate
        exact .inl ⟨rfl, _, rfl⟩
      next hwithin =>
        cases hrotate
        refine .inr ⟨device, _, hdevice, ⟨rfl, hrole, rfl,
          fun _ hscope => nonBlank_of_mem_normalizeDeviceAuthScopes hscope,
          ?_⟩, rfl, rfl⟩
        rw [hbaseline]
        simpa [buildDeviceAuthToken] using hwithin

theorem revokeDeviceToken_cases {result : Option DeviceAuthToken}
    (hrevoke : revokeDeviceToken file deviceId role loadedAt now = (file', result)) :
    (file' = file ∧ result = none) ∨
    ∃ device entry, file.pairedByDeviceId.get? (trim deviceId) = some device ∧
      device.tokens.bind (·.get? (trim role)) = some entry ∧
      file' = (file.loadState loadedAt).putToken device (trim role)
        { entry with revokedAtMs := some now } ∧
      result = some { entry with revokedAtMs := some (now : ℕ) } := by
  simp only [revokeDeviceToken, loadState_pairedByDeviceId] at hrevoke
  split at hrevoke
  next =>
    cases hrevoke
    exact .inl ⟨rfl, rfl⟩
  next device hdevice =>
    split at hrevoke
    next =>
      cases hrevoke
      exact .inl ⟨rfl, rfl⟩
    next normalized hnormalized =>
      obtain rfl := normalizeRole_some hnormalized
      split at hrevoke
      next =>
        cases hrevoke
        exact .inl ⟨rfl, rfl⟩
      next entry hentry =>
        cases hrevoke
        exact .inr ⟨device, entry, hdevice, hentry, rfl, rfl⟩

end LittleBaby.Pairing
