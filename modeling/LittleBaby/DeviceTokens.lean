import LittleBaby.DeviceContainment

/-!
# The tokens of the device store over its histories

The invariant has two halves: every stored device is contained, and the last
event that concerns a device and role tells the stored token, if it is not
revoked.
-/

namespace LittleBaby.Pairing

open JsString LabelledMachine DevicePairingStateFile InsertionMap TokenEvent DeviceHistory

theorem token?_approve (state : DevicePairingStateFile) (requestId : JsString)
    (device : PairedDevice) (id role : JsString) :
    (state.approve requestId device).token? id role =
      if id = device.deviceId then device.tokens.bind (·.get? role)
      else state.token? id role := by
  simp only [token?, approve_pairedByDeviceId, get?_set]
  split <;> rfl

variable {device : PairedDevice}

theorem token?_putToken {file : DevicePairingStateFile}
    (hdevice : file.pairedByDeviceId.get? device.deviceId = some device)
    (loadedAt : Clock) (newRole : JsString) (entry : DeviceAuthToken)
    (id role : JsString) :
    ((file.loadState loadedAt).putToken device newRole entry).token? id role =
      if id = device.deviceId ∧ role = newRole then some entry
      else file.token? id role := by
  simp only [token?, putToken,
    loadState_pairedByDeviceId, get?_set]
  by_cases hid : id = device.deviceId
  · subst hid
    simp only [hdevice, if_true, Option.bind_some, true_and, get?_set]
    by_cases hrole : role = newRole
    · simp [hrole]
    · cases htokens : device.tokens <;> simp [hrole]
  · simp [hid]

variable {loadedAt : Clock} {id role : JsString} {entry : DeviceAuthToken}

theorem token?_delete {file : DevicePairingStateFile} {key : JsString}
    (htoken : ({ file.loadState loadedAt with
      pairedByDeviceId := file.pairedByDeviceId.delete key } :
        DevicePairingStateFile).token? id role = some entry) :
    id ≠ key ∧ file.token? id role = some entry := by
  obtain ⟨device, hdevice, hentry⟩ := token?_eq_some htoken
  rw [get?_delete] at hdevice
  split at hdevice
  next => simp at hdevice
  next hne =>
    exact ⟨hne, Option.bind_eq_some_iff.mpr ⟨device, hdevice, hentry⟩⟩

theorem find?_approvalEvents (roles : List JsString) (requestId : JsString)
    (device : PairedDevice) (role : JsString) :
    (approvalEvents roles (some (.approved requestId device))).find?
        (concerns device.deviceId role) =
      if role ∈ roles then
        (device.tokens.bind (·.get? role)).map fun entry =>
          .issued device.deviceId role entry.token
      else none := by
  induction roles with
  | nil => simp [approvalEvents]
  | cons first rest ih =>
    simp only [approvalEvents, List.filterMap_cons] at ih ⊢
    by_cases heq : role = first
    · subst heq
      cases hentry : device.tokens.bind (·.get? role) with
      | none =>
        simp only [Option.map_none, ih, hentry, ite_self]
      | some entry => simp [concerns]
    · have hne : ¬first = role := fun h => heq h.symm
      have hmem : role ∈ first :: rest ↔ role ∈ rest := by simp [heq]
      simp only [hmem, ← ih]
      cases hentry : device.tokens.bind (·.get? first) with
      | none => rfl
      | some entry =>
        simp [concerns, hne]

theorem find?_approvalEvents_of_ne (roles : List JsString) (requestId : JsString)
    (hid : id ≠ device.deviceId) (role : JsString) :
    (approvalEvents roles (some (.approved requestId device))).find?
      (concerns id role) = none := by
  rw [List.find?_eq_none]
  intro event hevent
  simp only [approvalEvents, List.mem_filterMap, Option.map_eq_some_iff] at hevent
  obtain ⟨_, _, _, _, rfl⟩ := hevent
  have hne : ¬device.deviceId = id := fun h => hid h.symm
  simp [concerns, hne]

theorem approvalEvents_of_not_approved {roles : List JsString}
    {result : Option ApproveDevicePairingResult}
    (hresult : ∀ id device, result ≠ some (.approved id device)) :
    approvalEvents roles result = [] := by
  rcases result with _ | ⟨id, device⟩ | refusal
  · rfl
  · exact absurd rfl (hresult id device)
  · rfl

structure DeviceHistory.Sound (history : DeviceHistory) : Prop where
  contained : ∀ id device, history.file.pairedByDeviceId.get? id = some device → Contained id device
  latest : ∀ id role entry, history.file.token? id role = some entry →
    entry.isRevoked = false → history.events.find? (concerns id role) =
        some (.issued id role entry.token)

namespace DeviceHistory

theorem sound_empty : DeviceHistory.empty.Sound := by
  constructor
  · intro id device hget
    simp [DeviceHistory.empty, DevicePairingStateFile.empty] at hget
  · intro id role entry htoken
    simp [DeviceHistory.empty, DevicePairingStateFile.empty,
      DevicePairingStateFile.token?] at htoken

variable {history : DeviceHistory}

theorem Sound.of_same (hsound : history.Sound) {next : DeviceHistory}
    (hfile : next.file.pairedByDeviceId = history.file.pairedByDeviceId)
    (hevents : next.events = history.events) : next.Sound := by
  constructor
  · intro id device hget
    exact hsound.contained id device (hfile ▸ hget)
  · intro id role entry htoken hrevoked
    rw [hevents]
    apply hsound.latest id role entry _ hrevoked
    simpa only [token?, hfile] using htoken

theorem Sound.approve (hsound : history.Sound) {requestId : JsString} {roles : List JsString}
    {issued : JsString → DeviceAuthToken}
    (hextends : ∀ {old}, history.file.pairedByDeviceId.get? device.deviceId = some old →
      Extends old device)
    (htokens : ∀ role, device.tokens.bind (·.get? role) =
      if role ∈ roles then some (issued role) else history.file.token? device.deviceId role)
    (hissued : ∀ {role}, role ∈ roles → TokenWithin device role (issued role)) :
    (history.after ((history.file.loadState loadedAt).approve requestId device)
      (approvalEvents roles (some (.approved requestId device)))).Sound := by
  constructor
  · intro id other hget
    simp only [after, approve_pairedByDeviceId, get?_set] at hget
    split at hget
    next hid =>
      cases hget
      refine ⟨hid.symm, fun role entry hentry => ?_⟩
      rw [htokens] at hentry
      split at hentry
      next hrole =>
        cases hentry
        exact hissued hrole
      next =>
        obtain ⟨old, hold, hentry⟩ := token?_eq_some hentry
        exact ((hsound.contained _ old hold).tokens role entry hentry).mono (hextends hold)
    next => exact hsound.contained id other hget
  · intro id role entry htoken hrevoked
    simp only [after] at htoken ⊢
    rw [List.find?_append]
    rw [token?_approve] at htoken
    split at htoken
    next hid =>
      subst hid
      rw [find?_approvalEvents]
      by_cases hrole : role ∈ roles
      · rw [if_pos hrole, htoken]
        rfl
      · rw [if_neg hrole, Option.none_or]
        rw [htokens, if_neg hrole] at htoken
        exact hsound.latest _ role entry htoken hrevoked
    next hid =>
      rw [find?_approvalEvents_of_ne roles requestId hid, Option.none_or]
      exact hsound.latest id role entry htoken hrevoked

theorem contained_putToken (hdevice : Contained id device)
    (hentry : TokenWithin device role entry) :
    Contained id { device with
      tokens := some ((device.tokens.getD .empty).set role entry) } := by
  constructor
  · exact hdevice.deviceId
  · intro other found hfound
    simp only [Option.bind_some, get?_set] at hfound
    have hwithin : TokenWithin device other found := by
      split at hfound
      next hrole =>
        cases hfound
        exact hrole ▸ hentry
      next =>
        refine hdevice.tokens other found ?_
        cases htokens : device.tokens with
        | none => simp [htokens] at hfound
        | some tokens => simpa [htokens] using hfound
    exact ⟨hwithin.role_eq, hwithin.approvedRole, hwithin.operator, hwithin.other⟩

section

variable (hsound : history.Sound) (hdevice : history.file.pairedByDeviceId.get? id = some device)
include hsound hdevice

theorem Sound.putToken {events : List TokenEvent} (hentry : TokenWithin device role entry)
    (hlatest : entry.isRevoked = false → (events ++ history.events).find? (concerns id role) =
        some (.issued id role entry.token))
    (hothers : ∀ otherId otherRole, ¬(otherId = id ∧ otherRole = role) →
      events.find? (concerns otherId otherRole) = none) :
    (history.after ((history.file.loadState loadedAt).putToken device role
      entry) events).Sound := by
  have hcontained := hsound.contained id device hdevice
  obtain rfl := hcontained.deviceId
  constructor
  · intro other found hget
    simp only [after, putToken, loadState_pairedByDeviceId, get?_set] at hget
    split at hget
    next hid =>
      cases hget
      exact hid ▸ contained_putToken hcontained hentry
    next => exact hsound.contained other found hget
  · intro otherId otherRole found htoken hrevoked
    simp only [after] at htoken ⊢
    rw [token?_putToken hdevice] at htoken
    split at htoken
    next hsame =>
      obtain ⟨rfl, rfl⟩ := hsame
      cases htoken
      exact hlatest hrevoked
    next hother =>
      rw [List.find?_append, hothers otherId otherRole hother, Option.none_or]
      exact hsound.latest otherId otherRole found htoken hrevoked

theorem Sound.issue (hissued : IssuedWithin device role entry) :
    (history.after ((history.file.loadState loadedAt).putToken device role
      entry) [.issued id role entry.token]).Sound := by
  apply hsound.putToken hdevice hissued.tokenWithin
  · intro _
    simp [concerns]
  · intro otherId otherRole hother
    simp only [List.find?_singleton, concerns, decide_eq_true_eq]
    rw [if_neg]
    rintro ⟨rfl, rfl⟩
    exact hother ⟨rfl, rfl⟩

end

theorem Sound.remove (hsound : history.Sound) {key : JsString} :
    (history.after { history.file.loadState loadedAt with
      pairedByDeviceId := history.file.pairedByDeviceId.delete key } [.removed key]).Sound := by
  constructor
  · intro id device hget
    simp only [after, get?_delete] at hget
    split at hget
    next => simp at hget
    next => exact hsound.contained id device hget
  · intro id role entry htoken hrevoked
    obtain ⟨hne, hbefore⟩ := token?_delete htoken
    have hconcerns : concerns id role (.removed key) = false := by
      have hkey : ¬key = id := fun h => hne h.symm
      simp [concerns, hkey]
    simp only [after, List.singleton_append,
      List.find?_cons_of_neg (by simpa using hconcerns)]
    exact hsound.latest id role entry hbefore hrevoked

theorem Sound.step (hsound : history.Sound) {next : DeviceHistory}
    {action : DeviceAction} (hstep : history.step action = some next) :
    next.Sound := by
  cases action with
  | request req requestId loadedAt now =>
    simp only [DeviceHistory.step] at hstep
    split at hstep
    next => simp at hstep
    next =>
      split at hstep
      next =>
        cases hstep
        exact hsound
      next file result hrequest =>
        cases hstep
        obtain ⟨-, -, hpaired, -⟩ := requestDevicePairing_eq_some hrequest
        exact hsound.of_same hpaired rfl
  | approve requestId callerScopes newToken loadedAt now =>
    cases hstep
    rcases approveDevicePairing_cases Prod.mk.eta.symm with
      ⟨hfile, hnot⟩ | ⟨pending, hpending, -, hfile, hresult⟩
    · rw [approvalEvents_of_not_approved hnot]
      exact hsound.of_same (by rw [DeviceHistory.after, hfile]) rfl
    · have hroles : history.requestedRoles requestId loadedAt =
          resolveRequestedRoles pending.toDevicePairingRequest := by
        simp [DeviceHistory.requestedRoles, hpending]
      rw [hfile, hresult, hroles]
      exact hsound.approve extends_approvalDevice (approvalDevice_tokens _ _ _ _)
        (tokenWithin_approvedDeviceToken hsound.contained)
  | approveBootstrap requestId profile newToken loadedAt now =>
    cases hstep
    rcases approveBootstrapDevicePairing_cases rfl rfl Prod.mk.eta.symm with
      ⟨hfile, hnot⟩ | ⟨pending, hpending, -, hfile, hresult⟩
    · rw [approvalEvents_of_not_approved hnot]
      exact hsound.of_same (by rw [DeviceHistory.after, hfile]) rfl
    · rw [hfile, hresult]
      exact hsound.approve extends_bootstrapDevice
        (bootstrapDevice_tokens _ _ (nodup_mergeRoles _) _ _ _)
        (fun hrole => tokenWithin_bootstrapDeviceToken hrole _)
  | reject requestId loadedAt =>
    cases hstep
    rcases rejectDevicePairing_cases Prod.mk.eta.symm with hfile | hfile
    · exact hsound.of_same (by rw [DeviceHistory.after, hfile]) rfl
    · exact hsound.of_same (by rw [DeviceHistory.after, hfile]; rfl) rfl
  | remove deviceId loadedAt =>
    cases hstep
    rcases removePairedDevice_cases Prod.mk.eta.symm with
      ⟨hfile, hresult⟩ | ⟨hfile, hresult⟩
    · rw [hfile, hresult]
      exact hsound.of_same rfl rfl
    · rw [hfile, hresult]
      exact hsound.remove
  | clear deviceId loadedAt =>
    cases hstep
    rcases clearDevicePairing_cases Prod.mk.eta.symm with
      ⟨hfile, hcleared⟩ | ⟨hfile, hcleared⟩
    · rw [hfile, hcleared]
      exact hsound.of_same rfl rfl
    · rw [hfile, hcleared]
      exact hsound.remove
  | verify deviceId token role scopes loadedAt now =>
    cases hstep
    rcases verifyDeviceToken_cases Prod.mk.eta.symm with
      ⟨hfile, -⟩ | ⟨device, entry, hdevice, hentry, -, -, hfile, -⟩
    · rw [hfile]
      exact hsound.of_same rfl rfl
    · rw [hfile]
      have hwithin := (hsound.contained _ device hdevice).tokens _ entry hentry
      apply hsound.putToken hdevice
      · exact ⟨hwithin.role_eq, hwithin.approvedRole, hwithin.operator, hwithin.other⟩
      · intro hrevoked
        exact hsound.latest _ _ entry
          (Option.bind_eq_some_iff.mpr ⟨device, hdevice, hentry⟩) hrevoked
      · intro _ _ _
        rfl
  | ensure deviceId role scopes newToken loadedAt now =>
    cases hstep
    rcases ensureDeviceToken_cases Prod.mk.eta.symm with
      ⟨hfile, hresult⟩ | ⟨device, entry, hdevice, hissued, hfile, hresult⟩
    · refine hsound.of_same (by rw [DeviceHistory.after, hfile]) ?_
      rcases hresult with hnone | hstored
      · simp [DeviceHistory.after, hnone]
      · simp [DeviceHistory.after, ← hstored]
    · rw [hfile, hresult]
      split
      next hstored =>
        apply hsound.putToken hdevice hissued.tokenWithin
        · intro hrevoked
          exact hsound.latest _ _ entry hstored hrevoked
        · intro _ _ _
          rfl
      next => exact hsound.issue hdevice hissued
  | rotate deviceId role scopes newToken loadedAt now =>
    cases hstep
    rcases rotateDeviceToken_cases Prod.mk.eta.symm with
      ⟨hfile, reason, hresult⟩ | ⟨device, entry, hdevice, hissued, hfile, hresult⟩
    · rw [hfile, hresult]
      exact hsound.of_same rfl rfl
    · rw [hfile, hresult]
      exact hsound.issue hdevice hissued
  | revoke deviceId role loadedAt now =>
    cases hstep
    rcases revokeDeviceToken_cases Prod.mk.eta.symm with
      ⟨hfile, hresult⟩ | ⟨device, entry, hdevice, hentry, hfile, hresult⟩
    · rw [hfile, hresult]
      exact hsound.of_same rfl rfl
    · rw [hfile, hresult]
      have hwithin := (hsound.contained _ device hdevice).tokens _ entry hentry
      apply hsound.putToken hdevice
      · exact ⟨hwithin.role_eq, hwithin.approvedRole, hwithin.operator, hwithin.other⟩
      · intro hrevoked
        simp [DeviceAuthToken.isRevoked] at hrevoked
      · intro otherId otherRole hother
        simp only [Option.toList_some, List.map_singleton,
          List.find?_singleton, TokenEvent.concerns, decide_eq_true_eq]
        rw [if_neg]
        rintro ⟨rfl, rfl⟩
        exact hother ⟨rfl, rfl⟩

theorem sound_of_reachable (hreach : Reachable step .empty history) : history.Sound :=
  Reachable.invariant DeviceHistory.Sound (fun hsound hstep => hsound.step hstep) sound_empty hreach

def heldScopes (history : DeviceHistory) (deviceId : JsString) :
    List JsString :=
  match history.file.token? deviceId operatorRole with
  | some entry => normalizeDeviceAuthScopes (some entry.scopes)
  | none =>
    match history.file.pairedByDeviceId.get? deviceId with
    | some device => device.approvedBaseline
    | none => []

inductive Granted (history : DeviceHistory)
    (pending : DevicePairingPendingRequest)
    (callerScopes : Option (List JsString)) (scope : JsString) : Prop
  | byCaller (held : List JsString) (hcaller : callerScopes = some held)
      (hallow : roleScopesAllow operatorRole [scope] held = true)
  | reissued (hnone : ∀ requested ∈ normalizeDeviceAuthScopes pending.scopes,
        isOperatorScope requested = false)
      (hheld : scope ∈ history.heldScopes pending.deviceId)

end DeviceHistory

variable {scope : JsString}

theorem approvalRefusal_eq_none {pending : DevicePairingPendingRequest}
    {callerScopes : Option (List JsString)}
    (hrefusal : approvalRefusal pending callerScopes = none)
    (hscope : scope ∈ normalizeDeviceAuthScopes
      pending.scopes) (hoperator : isOperatorScope scope = true) :
    ∃ held, callerScopes = some held ∧ roleScopesAllow operatorRole [scope] held = true := by
  simp only [approvalRefusal] at hrefusal
  split at hrefusal
  next => simp at hrefusal
  next =>
    have hmem : scope ∈ (normalizeDeviceAuthScopes pending.scopes).filter
        isOperatorScope := List.mem_filter.mpr ⟨hscope, hoperator⟩
    rw [if_neg (List.ne_nil_of_mem hmem)] at hrefusal
    split at hrefusal
    next => simp at hrefusal
    next held =>
      rw [Option.map_eq_none_iff, resolveMissingRequestedScope, List.find?_eq_none] at hrefusal
      exact ⟨held, rfl, by simpa using hrefusal scope hmem⟩

theorem mem_normalize_of_mem_merged {baseline pendingScopes : Option (List JsString)}
    (hnone : ∀ requested ∈ normalizeDeviceAuthScopes pendingScopes,
      isOperatorScope requested = false)
    (hmem : scope ∈ normalizeDeviceAuthScopes (mergeScopes [baseline, pendingScopes]))
    (hoperator : isOperatorScope scope = true) :
    scope ∈ normalizeDeviceAuthScopes baseline := by
  -- an operator scope of the merge is not from the request
  have hfrom : ∀ merged, merged ∈ (trimmedSet ((mergeScopes
        [baseline, pendingScopes]).getD [])).elements →
      isOperatorScope merged = true → merged ∈ (trimmedSet (baseline.getD [])).elements := by
    intro merged hmerged hisOperator
    obtain ⟨raw, hraw, hname⟩ := mem_trimmedSet.mp hmerged
    obtain ⟨item, hitem, source, hsource, hsourceName⟩ := mem_mergeScopes.mp hraw
    have hsame : nonBlank source = some merged := by
      rw [hsourceName, ← hname, nonBlank_of_nonBlank hsourceName]
    simp only [List.mem_cons, List.not_mem_nil, or_false] at hitem
    rcases hitem with rfl | rfl
    · exact mem_trimmedSet.mpr ⟨source, hsource, hsame⟩
    · have hrequested : merged ∈ normalizeDeviceAuthScopes item :=
        mem_normalizeDeviceAuthScopes.mpr (.inl (mem_trimmedSet.mpr ⟨source, hsource, hsame⟩))
      rw [hnone merged hrequested] at hisOperator
      simp at hisOperator
  rw [mem_normalizeDeviceAuthScopes] at hmem ⊢
  rcases hmem with hset | ⟨hadmin, hscope⟩ | ⟨hwrite, hscope⟩
  · exact .inl (hfrom scope hset hoperator)
  · exact .inr (.inl ⟨hfrom _ hadmin (by decide), hscope⟩)
  · exact .inr (.inr ⟨hfrom _ hwrite (by decide), hscope⟩)

theorem granted_of_approved {history : DeviceHistory} {pending : DevicePairingPendingRequest}
    {callerScopes : Option (List JsString)} {newToken : JsString → JsString}
    {now : Clock}
    (hrefusal : approvalRefusal pending callerScopes = none)
    (hrole : role ∈ resolveRequestedRoles pending.toDevicePairingRequest)
    (hentry : (approvalDevice (history.file.loadState loadedAt) pending newToken
      now).tokens.bind (·.get? role) = some entry)
    (hscope : scope ∈ entry.scopes)
    (hoperator : isOperatorScope scope = true) :
    history.Granted pending callerScopes scope := by
  rw [approvalDevice_tokens, if_pos hrole] at hentry
  cases hentry
  simp only [approvedDeviceToken, resolveApprovedTokenScopes_eq] at hscope
  have hisOperator : role = operatorRole := by
    by_contra hne
    rw [resolveRoleScopedDeviceTokenScopes, if_neg hne, List.mem_filter] at hscope
    simp [hoperator] at hscope
  subst hisOperator
  rw [resolveRoleScopedDeviceTokenScopes, if_pos rfl, List.mem_filter] at hscope
  obtain ⟨hsource, -⟩ := hscope
  unfold tokenScopeSource at hsource
  split at hsource
  next =>
    obtain ⟨held, hcaller, hallow⟩ := approvalRefusal_eq_none hrefusal hsource hoperator
    exact .byCaller held hcaller hallow
  next hrequested =>
    have hnone : ∀ requested ∈ normalizeDeviceAuthScopes pending.scopes,
        isOperatorScope requested = false := by
      rw [ne_eq, not_not, resolveRoleScopedDeviceTokenScopes, if_pos rfl,
        List.filter_eq_nil_iff] at hrequested
      intro requested hmem
      simpa using hrequested requested hmem
    refine .reissued hnone ?_
    have htoken : (history.file.loadState loadedAt).token? pending.deviceId
        operatorRole = history.file.token? pending.deviceId operatorRole := rfl
    rw [htoken] at hsource
    unfold heldScopes
    cases hheld : history.file.token? pending.deviceId operatorRole with
    | some held => simpa [hheld] using hsource
    | none =>
      have hmerged : (approvalDevice (history.file.loadState loadedAt) pending
          newToken now).approvedScopes = mergeScopes [(history.file.pairedByDeviceId.get?
              pending.deviceId).bind (·.baseline), pending.scopes] := rfl
      rw [hheld, hmerged] at hsource
      simp only [Option.map_none, Option.none_or, loadState_pairedByDeviceId,
        fallback_eq] at hsource
      have hbaseline := mem_normalize_of_mem_merged hnone hsource hoperator
      cases hdevice : history.file.pairedByDeviceId.get? pending.deviceId with
      | some device =>
        simpa [hdevice, PairedDevice.approvedBaseline] using hbaseline
      | none =>
        have hempty : normalizeDeviceAuthScopes none = [] := by
          decide
        rw [hdevice, Option.bind_none, hempty] at hbaseline
        exact absurd hbaseline List.not_mem_nil

structure TokensContained (history : DeviceHistory) : Prop where
  stored : ∀ id device role entry, history.file.pairedByDeviceId.get? id = some device →
      device.tokens.bind (·.get? role) = some entry → entry.isRevoked = false →
          role ∈ listApprovedPairedDeviceRoles device ∧
          (role ≠ operatorRole → ∀ scope ∈ entry.scopes, scope ∈ device.approvedBaseline) ∧
          (role = operatorRole ∨ (∀ scope ∈ entry.scopes,
              startsWith scope (role ++ js ".") = true) →
            roleScopesAllow role entry.scopes device.approvedBaseline = true)
  approved : ∀ requestId callerScopes newToken loadedAt now file' id device pending,
    (history.file.loadState loadedAt).pendingById.get? requestId = some pending →
    approveDevicePairing history.file requestId callerScopes newToken loadedAt
        now = (file', some (.approved id device)) →
      ∀ role ∈ resolveRequestedRoles pending.toDevicePairingRequest,
        ∀ entry, device.tokens.bind (·.get? role) = some entry →
          ∀ scope ∈ entry.scopes, isOperatorScope scope = true →
            history.Granted pending callerScopes scope
  accepted : ∀ deviceId token role scopes loadedAt now file',
    verifyDeviceToken history.file deviceId token role scopes loadedAt now = (file', .ok) →
      history.events.find? (concerns (trim deviceId) (trim role)) =
        some (.issued (trim deviceId) (trim role) token)

/-- In every history of the store: a stored token has an approved role and
scopes of the approved baseline; an operator scope of an approval's token is
allowed to the caller or was the device's before; and an accepted token is the
one issued last, not revoked or removed since. -/
theorem device_tokens_contained {history : DeviceHistory}
    (hreach : Reachable step .empty history) :
    TokensContained history := by
  have hsound := sound_of_reachable hreach
  constructor
  case stored =>
    intro id device role entry hdevice hentry _
    have hwithin := (hsound.contained id device hdevice).tokens role entry hentry
    refine ⟨hwithin.approvedRole, hwithin.other, ?_⟩
    intro hallowed
    by_cases hrole : role = operatorRole
    · exact hwithin.operator hrole
    · have hprefixed := hallowed.resolve_left hrole
      have htrim := trim_of_nonBlank (nonBlank_of_mem_approvedRoles hwithin.approvedRole)
      refine (roleScopesAllow_other (by rwa [htrim])).mpr ?_
      intro scope hscope
      obtain ⟨raw, hraw, hname⟩ := mem_trimmedSet.mp hscope
      have hmem := hwithin.other hrole raw hraw
      have hself := nonBlank_of_mem_normalizeDeviceAuthScopes hmem
      rw [hname] at hself
      cases hself
      rw [htrim]
      exact ⟨hprefixed scope hraw, mem_trimmedSet_normalizeDeviceAuthScopes.mpr hmem⟩
  case approved =>
    intro requestId callerScopes newToken loadedAt now file' id device pending
      hpending happrove role hrole entry hentry scope hscope hoperator
    rcases approveDevicePairing_cases happrove with
      ⟨-, hnot⟩ | ⟨found, hfound, hrefusal, -, hresult⟩
    · exact absurd rfl (hnot id device)
    · rw [hpending] at hfound
      cases hfound
      obtain ⟨-, rfl⟩ := hresult
      exact granted_of_approved hrefusal hrole hentry hscope hoperator
  case accepted =>
    intro deviceId token role scopes loadedAt now file' hverify
    rcases verifyDeviceToken_cases hverify with
      ⟨-, hnot⟩ | ⟨device, entry, hdevice, hentry, hrevoked, rfl, -, -⟩
    · exact absurd rfl hnot
    · exact hsound.latest _ _ entry (Option.bind_eq_some_iff.mpr ⟨device, hdevice, hentry⟩) hrevoked

theorem device_tokens_contained_node : ∃ history, run step .empty [.request
          { deviceId := js "d", publicKey := js "k", role := some (js "node") }
          (js "r1") 1 1,
        .approve (js "r1") none (fun _ => js "t1") 2 2] = some history ∧
      history.events = [.issued (js "d") (js "node") (js "t1")] ∧
      TokensContained history := by
  apply exists_of_view (by decide : Option.map (·.events) _ =
    some [.issued (js "d") (js "node") (js "t1")])
  intro history hevents hhistory
  exact ⟨hevents, device_tokens_contained ⟨_, hhistory⟩⟩

/-- A device with an approved administrator token asks again, for its role
only; the approval, which needs no caller scopes, issues a new administrator
token.  And a device approved for two roles gets, for the first, a token with
the scope of the second. -/
theorem admin_token_reissued : (∃ history, run step .empty [.request
          { deviceId := js "d", publicKey := js "k",
            role := some (js "operator"),
            scopes := some [js "operator.admin"] }
          (js "r1") 1 1,
        .approve (js "r1") (some [js "operator.admin"]) (fun _ => js "t1") 2 2,
        .request
          { deviceId := js "d", publicKey := js "k2",
            role := some (js "operator") }
          (js "r2") 3 3] = some history ∧
      (match (approveDevicePairing history.file (js "r2") (some []) (fun _ => js "t2") 4 4).2 with
      | some (.approved _ device) =>
        (device.tokens.bind (·.get? (js "operator"))).map fun entry =>
          (entry.token, entry.scopes)
      | _ => none) = some (js "t2", [js "operator.admin", js "operator.read",
          js "operator.write"]) ∧
      roleScopesAllow operatorRole [js "operator.admin"] [] = false) ∧
    (∃ history, run step .empty [.request
          { deviceId := js "d", publicKey := js "k",
            roles := some [js "node", js "sensor"],
            scopes := some [js "sensor.read"] }
          (js "r1") 1 1,
        .approve (js "r1") none (fun role => role) 2 2] = some history ∧
      ((history.file.pairedByDeviceId.get? (js "d")).bind fun device =>
        (device.tokens.bind (·.get? (js "node"))).map fun entry =>
          (entry.scopes, roleScopesAllow (js "node") entry.scopes
            device.approvedBaseline)) = some ([js "sensor.read"], false)) := by
  constructor
  · apply exists_of_view (by decide : Option.map (fun history =>
      match (approveDevicePairing history.file (js "r2") (some []) (fun _ => js "t2") 4 4).2 with
      | some (.approved _ device) =>
        (device.tokens.bind (·.get? (js "operator"))).map fun entry => (entry.token, entry.scopes)
      | _ => none) _ =
        some (some (js "t2", [js "operator.admin", js "operator.read", js "operator.write"])))
    intro history hissued _
    exact ⟨hissued, by decide⟩
  · apply exists_of_view (by decide : Option.map (fun history =>
      (history.file.pairedByDeviceId.get? (js "d")).bind fun device =>
        (device.tokens.bind (·.get? (js "node"))).map fun entry =>
          (entry.scopes, roleScopesAllow (js "node") entry.scopes device.approvedBaseline)) _ =
        some (some ([js "sensor.read"], false)))
    exact fun history hescaped _ => hescaped

end LittleBaby.Pairing
