import LittleBaby.DeviceHistory
import LittleBaby.DeviceOperations

/-!
# Containment of device tokens

Every token of a paired device has an approved role and scopes within the
approved baseline, because both only grow when the device is paired again, and
an approval grants operator scopes that the device has or the caller holds.
-/

namespace LittleBaby.Pairing

open JsString LabelledMachine PairedDevice

def PairedDevice.approvedBaseline (device : PairedDevice) : List JsString :=
  normalizeDeviceAuthScopes device.baseline

structure TokenWithin (device : PairedDevice) (role : JsString)
    (entry : DeviceAuthToken) : Prop where
  role_eq : entry.role = role
  approvedRole : role ∈ listApprovedPairedDeviceRoles device
  operator : role = operatorRole → roleScopesAllow role entry.scopes device.approvedBaseline = true
  other : role ≠ operatorRole → ∀ scope ∈ entry.scopes, scope ∈ device.approvedBaseline

structure Contained (id : JsString) (device : PairedDevice) : Prop where
  deviceId : device.deviceId = id
  tokens : ∀ role entry, device.tokens.bind (·.get? role) = some entry →
    TokenWithin device role entry

variable {device : PairedDevice} {role : JsString}

theorem nonBlank_of_mem_approvedRoles (hrole : role ∈ listApprovedPairedDeviceRoles device) :
    nonBlank role = some role := by
  obtain ⟨_, -, raw, -, hraw⟩ := mem_mergeRoles.mp hrole
  exact nonBlank_of_nonBlank hraw

theorem trim_of_nonBlank (hrole : nonBlank role = some role) : trim role = role :=
  (nonBlank_eq_some.mp hrole).2

theorem resolveApprovedDeviceScopeBaseline_getD (device : PairedDevice) :
    (resolveApprovedDeviceScopeBaseline device).getD [] = device.approvedBaseline := by
  unfold resolveApprovedDeviceScopeBaseline approvedBaseline
  cases device.baseline <;> rfl

theorem roleScopesAllow_of_within {scopes : List JsString}
    (hwithin : scopesWithinApprovedDeviceBaseline role scopes
      (resolveApprovedDeviceScopeBaseline device) = true) :
    roleScopesAllow role scopes device.approvedBaseline = true := by
  rw [← resolveApprovedDeviceScopeBaseline_getD]
  unfold scopesWithinApprovedDeviceBaseline at hwithin
  split at hwithin
  next => simp at hwithin
  next allowed hallowed => simpa [hallowed] using hwithin

variable {entry : DeviceAuthToken}

theorem IssuedWithin.tokenWithin (hissued : IssuedWithin device role entry) :
    TokenWithin device role entry where
  role_eq := hissued.role_eq
  approvedRole := hissued.approvedRole
  operator := fun _ => roleScopesAllow_of_within hissued.scopes
  other := by
    intro hrole scope hscope
    have htrim := trim_of_nonBlank (nonBlank_of_mem_approvedRoles hissued.approvedRole)
    rw [← htrim] at hrole
    have hallow := (roleScopesAllow_other hrole).mp (roleScopesAllow_of_within hissued.scopes)
    have hmem := (hallow scope ((mem_trimmedSet_of_trimmed hissued.normalized).mpr hscope)).2
    exact mem_trimmedSet_normalizeDeviceAuthScopes.mp hmem

structure Extends (device wider : PairedDevice) : Prop where
  roles : ∀ role ∈ listApprovedPairedDeviceRoles device, role ∈ listApprovedPairedDeviceRoles wider
  baseline : ∀ scope ∈ device.approvedBaseline, scope ∈ wider.approvedBaseline

theorem TokenWithin.mono {wider : PairedDevice} (hextends : Extends device wider)
    (hwithin : TokenWithin device role entry) :
    TokenWithin wider role entry where
  role_eq := hwithin.role_eq
  approvedRole := hextends.roles role hwithin.approvedRole
  operator := by
    rintro rfl
    have hallow := roleScopesAllow_operator.mp (hwithin.operator rfl)
    refine roleScopesAllow_operator.mpr ?_
    intro scope hscope
    refine operatorScopeSatisfied_mono ?_ (hallow scope hscope)
    intro granted hgranted
    exact mem_trimmedSet_normalizeDeviceAuthScopes.mpr (hextends.baseline granted
        (mem_trimmedSet_normalizeDeviceAuthScopes.mp hgranted))
  other := fun hrole scope hscope =>
    hextends.baseline scope (hwithin.other hrole scope hscope)

variable {granted : List JsString}

theorem admin_mem_of_satisfied (hadmin : operatorScopeSatisfied operatorAdminScope granted = true) :
    operatorAdminScope ∈ granted := by
  unfold operatorScopeSatisfied at hadmin
  split at hadmin
  next => simp at hadmin
  next =>
    split at hadmin
    next hmem => exact hmem
    next =>
      rw [if_neg (by decide), if_neg (by decide)] at hadmin
      simpa using hadmin

variable {scope : JsString}

theorem satisfied_of_admin (hoperator : isOperatorScope scope = true)
    (hadmin : operatorAdminScope ∈ granted) :
    operatorScopeSatisfied scope granted = true := by
  unfold operatorScopeSatisfied
  simp [hoperator, hadmin]

theorem read_satisfied_of_write
    (hwrite : operatorScopeSatisfied operatorWriteScope granted = true) :
    operatorScopeSatisfied operatorReadScope granted = true := by
  have hread : isOperatorScope operatorReadScope = true := by decide
  have hisWrite : isOperatorScope operatorWriteScope = true := by decide
  have hne : operatorWriteScope ≠ operatorReadScope := by decide
  by_cases hadmin : operatorAdminScope ∈ granted
  · exact satisfied_of_admin hread hadmin
  · have hgranted : operatorWriteScope ∈ granted := by
      simpa [operatorScopeSatisfied, hisWrite, hadmin, hne] using hwrite
    simp [operatorScopeSatisfied, hread, hadmin, hgranted]

variable {scopes : Option (List JsString)}

theorem satisfied_of_mem_normalize (hscopes : ∀ scope ∈ (trimmedSet (scopes.getD [])).elements,
      isOperatorScope scope = true → operatorScopeSatisfied scope granted = true)
    (hmem : scope ∈ normalizeDeviceAuthScopes scopes)
    (hoperator : isOperatorScope scope = true) :
    operatorScopeSatisfied scope granted = true := by
  rcases mem_normalizeDeviceAuthScopes.mp hmem with
    hset | ⟨hadmin, -⟩ | ⟨hwrite, rfl⟩
  · exact hscopes scope hset hoperator
  · exact satisfied_of_admin hoperator (admin_mem_of_satisfied (hscopes _ hadmin (by decide)))
  · exact read_satisfied_of_write (hscopes _ hwrite (by decide))

theorem mem_trimmedSet_of_mem_normalize (hmem : scope ∈ normalizeDeviceAuthScopes scopes)
    (hother : isOperatorScope scope = false) :
    scope ∈ (trimmedSet (scopes.getD [])).elements := by
  have hread : isOperatorScope operatorReadScope = true := by decide
  have hwrite : isOperatorScope operatorWriteScope = true := by decide
  rcases mem_normalizeDeviceAuthScopes.mp hmem with
    hset | ⟨-, rfl | rfl⟩ | ⟨-, rfl⟩
  · exact hset
  · rw [hread] at hother
    simp at hother
  · rw [hwrite] at hother
    simp at hother
  · rw [hread] at hother
    simp at hother

theorem roleScopesAllow_operatorScopes {baseline : List JsString}
    (hscopes : ∀ scope ∈ (trimmedSet (scopes.getD [])).elements, isOperatorScope scope = true →
        operatorScopeSatisfied scope (trimmedSet baseline).elements = true) :
    roleScopesAllow operatorRole (resolveRoleScopedDeviceTokenScopes operatorRole scopes) baseline =
        true := by
  refine roleScopesAllow_operator.mpr ?_
  intro scope hscope
  obtain ⟨raw, hraw, hscope⟩ := mem_trimmedSet.mp hscope
  rw [resolveRoleScopedDeviceTokenScopes, if_pos rfl, List.mem_filter] at hraw
  have hself := nonBlank_of_mem_normalizeDeviceAuthScopes hraw.1
  rw [hscope] at hself
  cases hself
  exact satisfied_of_mem_normalize hscopes hraw.1 hraw.2

theorem mem_of_mem_otherScopes (hrole : role ≠ operatorRole)
    (hmem : scope ∈ resolveRoleScopedDeviceTokenScopes role scopes) :
    scope ∈ (trimmedSet (scopes.getD [])).elements := by
  rw [resolveRoleScopedDeviceTokenScopes, if_neg hrole, List.mem_filter] at hmem
  exact mem_trimmedSet_of_mem_normalize hmem.1 (by simpa using hmem.2)

theorem trimmedSet_subset_mergeScopes {items : List (Option (List JsString))}
    {item : Option (List JsString)} (hitem : item ∈ items)
    (hmem : scope ∈ (trimmedSet (item.getD [])).elements) :
    scope ∈ (trimmedSet ((mergeScopes items).getD [])).elements := by
  obtain ⟨raw, hraw, hscope⟩ := mem_trimmedSet.mp hmem
  exact mem_trimmedSet.mpr ⟨scope, mem_mergeScopes.mpr ⟨item, hitem, raw, hraw, hscope⟩,
    nonBlank_of_nonBlank hscope⟩

theorem mergeScopes_eq_none {items : List (Option (List JsString))}
    (hnone : mergeScopes items = none) {item : Option (List JsString)}
    (hitem : item ∈ items) : item = none := by
  simp only [mergeScopes] at hnone
  split at hnone
  next =>
    split at hnone
    next => simp at hnone
    next hany =>
      simp only [List.any_eq_true, not_exists, not_and] at hany
      simpa using hany item hitem
  next => simp at hnone

section Approved

variable {pending : DevicePairingPendingRequest}
  {existing : Option PairedDevice} {roles approvedScopes : Option (List JsString)}
  {tokens : InsertionMap JsString DeviceAuthToken} {now : Clock}

@[simp] theorem approvedDevice_baseline :
    (approvedDevice pending existing roles approvedScopes tokens now).baseline =
      approvedScopes := by
  simp [baseline, approvedDevice]

theorem mem_approvedRoles_of_merged {items : List (Option (List JsString))}
    {item : Option (List JsString)} (hitem : item ∈ items)
    {raw role : JsString} (hraw : raw ∈ item.getD [])
    (hrole : nonBlank raw = some role) :
    role ∈ listApprovedPairedDeviceRoles
      (approvedDevice pending existing (mergeRoles items) approvedScopes tokens now) := by
  refine mem_mergeRoles.mpr ⟨mergeRoles items, by simp [approvedDevice], role,
    mem_mergeRoles.mpr ⟨item, hitem, raw, hraw, hrole⟩,
    nonBlank_of_nonBlank hrole⟩

theorem extends_approvedDevice {roleItems scopeItems : List (Option (List JsString))}
    (hroles : device.roles ∈ roleItems)
    (hrole : oneRole device.role ∈ roleItems)
    (hbaseline : device.baseline ∈ scopeItems) :
    Extends device (approvedDevice pending existing (mergeRoles roleItems)
      (mergeScopes scopeItems) tokens now) := by
  constructor
  case roles =>
    intro role hmem
    obtain ⟨item, hitem, raw, hraw, hname⟩ := mem_mergeRoles.mp hmem
    simp only [List.mem_cons, List.not_mem_nil, or_false] at hitem
    rcases hitem with rfl | rfl
    · exact mem_approvedRoles_of_merged hroles hraw hname
    · exact mem_approvedRoles_of_merged hrole hraw hname
  case baseline =>
    intro scope hmem
    rw [approvedBaseline, approvedDevice_baseline]
    exact normalizeDeviceAuthScopes_mono
      (fun _ hscope => trimmedSet_subset_mergeScopes hbaseline hscope) hmem

end Approved

def tokenScopeSource (pending : DevicePairingPendingRequest)
    (existingToken : Option DeviceAuthToken)
    (approvedScopes : Option (List JsString)) (existing : Option PairedDevice)
    (role : JsString) : Option (List JsString) :=
  if resolveRoleScopedDeviceTokenScopes role pending.scopes ≠ [] then
    pending.scopes
  else
    (existingToken.map (·.scopes)).or (approvedScopes.or
      ((existing.bind (·.approvedScopes)).or (existing.bind (·.scopes))))

theorem resolveApprovedTokenScopes_eq (role : JsString) (pending : DevicePairingPendingRequest)
    (existingToken : Option DeviceAuthToken)
    (approvedScopes : Option (List JsString))
    (existing : Option PairedDevice) :
    resolveApprovedTokenScopes role pending existingToken approvedScopes existing =
      resolveRoleScopedDeviceTokenScopes role
        (tokenScopeSource pending existingToken approvedScopes existing role) := by
  simp only [resolveApprovedTokenScopes, tokenScopeSource]
  split <;> rfl

theorem fallback_eq {existing : Option PairedDevice} {pendingScopes : Option (List JsString)} :
    (mergeScopes [existing.bind (·.baseline), pendingScopes]).or
        ((existing.bind (·.approvedScopes)).or (existing.bind (·.scopes))) =
      mergeScopes [existing.bind (·.baseline), pendingScopes] := by
  cases hmerged : mergeScopes [existing.bind (·.baseline), pendingScopes] with
  | some scopes => rfl
  | none =>
    have hbaseline := @mergeScopes_eq_none _ hmerged (existing.bind (·.baseline)) (by simp)
    cases existing with
    | none => rfl
    | some device => simpa [baseline] using hbaseline

theorem tokens_getD_get? (state : DevicePairingStateFile) (deviceId role : JsString) :
    (((state.pairedByDeviceId.get? deviceId).bind (·.tokens)).getD .empty).get? role =
      state.token? deviceId role := by
  unfold DevicePairingStateFile.token?
  cases state.pairedByDeviceId.get? deviceId with
  | none => rfl
  | some device => cases htokens : device.tokens <;> simp [htokens]

theorem approvalDevice_tokens (state : DevicePairingStateFile)
    (pending : DevicePairingPendingRequest) (newToken : JsString → JsString)
    (now : Clock) (role : JsString) :
    (approvalDevice state pending newToken now).tokens.bind (·.get? role) =
      if role ∈ resolveRequestedRoles pending.toDevicePairingRequest then
        some (approvedDeviceToken newToken pending
          (approvalDevice state pending newToken now).approvedScopes
          (state.pairedByDeviceId.get? pending.deviceId) now role
          (state.token? pending.deviceId role))
      else state.token? pending.deviceId role := by
  have hnodup : (resolveRequestedRoles pending.toDevicePairingRequest).Nodup := nodup_mergeRoles _
  simp only [approvalDevice, approvedDevice, Option.bind_some]
  rw [InsertionMap.get?_setAll _ _ hnodup, tokens_getD_get?]
  by_cases hrole : role ∈ resolveRequestedRoles pending.toDevicePairingRequest <;> simp [hrole]

theorem bootstrapDevice_tokens (state : DevicePairingStateFile)
    (pending : DevicePairingPendingRequest)
    {approvedRoles : List JsString} (hnodup : approvedRoles.Nodup)
    (approvedScopes : List JsString) (newToken : JsString → JsString)
    (now : Clock) (role : JsString) :
    (bootstrapDevice state pending approvedRoles approvedScopes newToken
        now).tokens.bind (·.get? role) =
      if role ∈ approvedRoles then
        some (bootstrapDeviceToken newToken approvedScopes now role
          (state.token? pending.deviceId role))
      else state.token? pending.deviceId role := by
  simp only [bootstrapDevice, approvedDevice, Option.bind_some]
  rw [InsertionMap.get?_setAll _ _ hnodup, tokens_getD_get?]
  by_cases hrole : role ∈ approvedRoles <;> simp [hrole]

theorem token?_eq_some {file : DevicePairingStateFile} {id : JsString}
    (htoken : file.token? id role = some entry) :
    ∃ device, file.pairedByDeviceId.get? id = some device ∧
      device.tokens.bind (·.get? role) = some entry :=
  Option.bind_eq_some_iff.mp htoken

section Contained

variable {state : DevicePairingStateFile}
  {pending : DevicePairingPendingRequest} {newToken : JsString → JsString}
  {now : Clock}

theorem extends_approvalDevice {existing : PairedDevice}
    (hexisting : state.pairedByDeviceId.get? pending.deviceId = some existing) :
    Extends existing (approvalDevice state pending newToken now) := by
  simp only [approvalDevice, hexisting, Option.bind_some]
  exact extends_approvedDevice (by simp) (by simp) (by simp)

theorem extends_bootstrapDevice {existing : PairedDevice}
    {approvedRoles approvedScopes : List JsString}
    (hexisting : state.pairedByDeviceId.get? pending.deviceId = some existing) :
    Extends existing (bootstrapDevice state pending approvedRoles approvedScopes newToken now) := by
  simp only [bootstrapDevice, hexisting, Option.bind_some]
  exact extends_approvedDevice (by simp) (by simp) (by simp)

theorem tokenWithin_approvedDeviceToken (hcontained : ∀ id device,
      state.pairedByDeviceId.get? id = some device → Contained id device)
    {role : JsString}
    (hrole : role ∈ resolveRequestedRoles pending.toDevicePairingRequest) :
    TokenWithin (approvalDevice state pending newToken now) role
      (approvedDeviceToken newToken pending
        (approvalDevice state pending newToken now).approvedScopes
        (state.pairedByDeviceId.get? pending.deviceId) now role
        (state.token? pending.deviceId role)) := by
  have hmerged : (approvalDevice state pending newToken now).approvedScopes =
      mergeScopes [(state.pairedByDeviceId.get? pending.deviceId).bind
        (·.baseline), pending.scopes] := rfl
  have hbaseline : (approvalDevice state pending newToken
      now).approvedBaseline = normalizeDeviceAuthScopes
        (approvalDevice state pending newToken now).approvedScopes := by
    simp [approvedBaseline, baseline, approvalDevice, approvedDevice]
  -- whatever the scopes are taken from lies within the new baseline
  have hsource : ∀ scope ∈ (trimmedSet ((tokenScopeSource pending
      (state.token? pending.deviceId role)
      (approvalDevice state pending newToken now).approvedScopes
      (state.pairedByDeviceId.get? pending.deviceId) role).getD [])).elements,
      (role = operatorRole → isOperatorScope scope = true → operatorScopeSatisfied scope (trimmedSet
          (approvalDevice state pending newToken now).approvedBaseline).elements = true) ∧
      (role ≠ operatorRole → scope ∈
        (approvalDevice state pending newToken now).approvedBaseline) := by
    intro scope hscope
    have hofSet : scope ∈ (trimmedSet ((approvalDevice state pending newToken
        now).approvedScopes.getD [])).elements →
        scope ∈ (approvalDevice state pending newToken now).approvedBaseline := by
      intro hset
      rw [hbaseline]
      exact mem_normalizeDeviceAuthScopes.mpr (.inl hset)
    have hofBaseline : scope ∈ (approvalDevice state pending newToken
        now).approvedBaseline → _ := fun hmem => And.intro
      (fun (_ : role = operatorRole) hoperator =>
        operatorScopeSatisfied_of_mem hoperator (mem_trimmedSet_normalizeDeviceAuthScopes.mpr hmem))
      (fun (_ : role ≠ operatorRole) => hmem)
    unfold tokenScopeSource at hscope
    split at hscope
    next =>
      apply hofBaseline
      apply hofSet
      exact trimmedSet_subset_mergeScopes (by simp) hscope
    next =>
      cases htoken : state.token? pending.deviceId role with
      | none =>
        rw [htoken, hmerged] at hscope
        simp only [Option.map_none, Option.none_or, fallback_eq] at hscope
        exact hofBaseline (hofSet (hmerged ▸ hscope))
      | some entry =>
        rw [htoken] at hscope
        obtain ⟨device, hdevice, hentry⟩ := token?_eq_some htoken
        have hwithin := ((hcontained _ device hdevice).tokens role entry
          hentry).mono (@extends_approvalDevice _ _ newToken now _ hdevice)
        constructor
        · rintro rfl hoperator
          exact roleScopesAllow_operator.mp (hwithin.operator rfl) scope hscope
        · intro hother
          obtain ⟨raw, hraw, hname⟩ := mem_trimmedSet.mp hscope
          have hmem := hwithin.other hother raw hraw
          have hself := nonBlank_of_mem_normalizeDeviceAuthScopes hmem
          rw [hname] at hself
          exact Option.some.inj hself ▸ hmem
  have hscopes : (approvedDeviceToken newToken pending
      (approvalDevice state pending newToken now).approvedScopes
      (state.pairedByDeviceId.get? pending.deviceId) now role
      (state.token? pending.deviceId role)).scopes =
        resolveRoleScopedDeviceTokenScopes role (tokenScopeSource pending
          (state.token? pending.deviceId role)
          (approvalDevice state pending newToken now).approvedScopes
          (state.pairedByDeviceId.get? pending.deviceId) role) :=
    resolveApprovedTokenScopes_eq _ _ _ _ _
  constructor
  case role_eq => rfl
  case approvedRole =>
    obtain ⟨item, hitem, raw, hraw, hname⟩ := mem_mergeRoles.mp hrole
    refine @mem_approvedRoles_of_merged _ _ _ _ _ _ item ?_ _ _ hraw hname
    simp only [List.mem_cons, List.not_mem_nil, or_false] at hitem ⊢
    exact .inr (.inr hitem)
  case operator =>
    rintro rfl
    rw [hscopes]
    exact roleScopesAllow_operatorScopes fun scope hscope => (hsource scope hscope).1 rfl
  case other =>
    intro hother scope hscope
    rw [hscopes] at hscope
    exact (hsource scope (mem_of_mem_otherScopes hother hscope)).2 hother

theorem tokenWithin_bootstrapDeviceToken {profile : DeviceBootstrapProfile} {role : JsString}
    (hrole : role ∈ (mergeRoles [some profile.roles]).getD [])
    (existingToken : Option DeviceAuthToken) :
    TokenWithin (bootstrapDevice state pending ((mergeRoles [some profile.roles]).getD [])
        (normalizeDeviceAuthScopes (some profile.scopes)) newToken now) role
      (bootstrapDeviceToken newToken (normalizeDeviceAuthScopes (some profile.scopes)) now role
        existingToken) := by
  constructor
  case role_eq => rfl
  case approvedRole =>
    obtain ⟨item, hitem, raw, hraw, hname⟩ := mem_mergeRoles.mp hrole
    exact @mem_approvedRoles_of_merged _ _ _ _ _ _
      (some ((mergeRoles [some profile.roles]).getD [])) (by simp) _ _ hrole
      (nonBlank_of_nonBlank hname)
  case operator =>
    rintro rfl
    refine roleScopesAllow_operator.mpr ?_
    intro scope hscope
    obtain ⟨raw, hraw, hname⟩ := mem_trimmedSet.mp hscope
    have htrim : trim operatorRole = operatorRole := by decide
    simp only [bootstrapDeviceToken, buildDeviceAuthToken, if_true,
      resolveBootstrapProfileScopesForRole, htrim, List.mem_filter,
      decide_eq_true_eq] at hraw
    have hself := nonBlank_of_mem_normalizeDeviceAuthScopes hraw.1
    rw [hname] at hself
    cases hself
    have hoperator : ∀ scope ∈ bootstrapHandoffOperatorScopes,
        isOperatorScope scope = true := by decide
    apply operatorScopeSatisfied_of_mem (hoperator scope hraw.2)
    rw [approvedBaseline, mem_trimmedSet_normalizeDeviceAuthScopes, bootstrapDevice,
      approvedDevice_baseline]
    exact normalizeDeviceAuthScopes_mono
      (fun _ hmem => trimmedSet_subset_mergeScopes (by simp) hmem) hraw.1
  case other =>
    intro hother scope hscope
    simp [bootstrapDeviceToken, buildDeviceAuthToken, hother] at hscope

end Contained

end LittleBaby.Pairing
