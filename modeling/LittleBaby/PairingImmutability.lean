import LittleBaby.DeviceHistory
import LittleBaby.DeviceOperations
import LittleBaby.NodePairing

/-!
# What is approved is what was requested

A device request is refreshed in place only by one with the same public key,
role, roles and scopes.
-/

namespace LittleBaby.Pairing

open JsString PendingLedger LabelledMachine

/-! ## Device requests -/

def DeviceHistory.ledger (history : DeviceHistory) : Ledger JsString DevicePairingPendingRequest :=
  ⟨history.file.pendingById, history.requestIds⟩

structure SameDeviceRequest (first last : DevicePairingPendingRequest) :
    Prop where
  deviceId : last.deviceId = first.deviceId
  publicKey : last.publicKey = first.publicKey
  role : last.role = first.role
  roles : last.roles = first.roles
  scopes : last.scopes = first.scopes
  ts : last.ts = first.ts
  interactive : first.silent ≠ some true → last.silent ≠ some true

theorem SameDeviceRequest.refl (request : DevicePairingPendingRequest) :
    SameDeviceRequest request request := by
  constructor <;> simp

theorem SameDeviceRequest.trans {first second third : DevicePairingPendingRequest}
    (hfirst : SameDeviceRequest first second)
    (hsecond : SameDeviceRequest second third) :
    SameDeviceRequest first third where
  deviceId := hsecond.deviceId.trans hfirst.deviceId
  publicKey := hsecond.publicKey.trans hfirst.publicKey
  role := hsecond.role.trans hfirst.role
  roles := hsecond.roles.trans hfirst.roles
  scopes := hsecond.scopes.trans hfirst.scopes
  ts := hsecond.ts.trans hfirst.ts
  interactive := hsecond.interactive ∘ hfirst.interactive

theorem silent_refresh {existing incoming : Option Bool} (hexisting : existing ≠ some true) :
    some (existing.getD false && incoming.getD false) ≠ some true := by
  rcases existing with _ | _ | _
  · simp
  · simp
  · exact absurd rfl hexisting

theorem sameDeviceRequest_refresh {existing : DevicePairingPendingRequest}
    {incoming : DevicePairingRequest} {isRepair : Bool}
    (hsame : samePendingApprovalSnapshot existing incoming = true) :
    SameDeviceRequest existing (refreshPendingDevicePairingRequest existing incoming isRepair) := by
  have hkey : existing.publicKey = incoming.publicKey := by
    simp only [samePendingApprovalSnapshot, Bool.and_eq_true, decide_eq_true_eq] at hsame
    exact hsame.1.1.1
  constructor
  case publicKey => exact hkey.symm
  case interactive => exact silent_refresh
  all_goals rfl

variable {requestId : JsString} {loadedAt now : Clock}

variable {history : DeviceHistory}

theorem deviceRequest_step {next : DeviceHistory} {req : DevicePairingRequest}
    (hvalid : Valid (·.requestId) (·.deviceId) history.ledger)
    (hstep : history.step (.request req requestId loadedAt now) = some next) :
    Step (·.requestId) (·.deviceId) SameDeviceRequest history.ledger
      next.ledger := by
  simp only [DeviceHistory.step] at hstep
  split at hstep
  next => simp at hstep
  next hfresh =>
    split at hstep
    next =>
      cases hstep
      exact .release (fun _ _ hget => hget) rfl
    next file result hrequest =>
      cases hstep
      obtain ⟨deviceId, -, -, hreconcile⟩ := requestDevicePairing_eq_some hrequest
      refine reconcilePendingPairingRequests_step hvalid
        (fun _ _ hget => get?_of_get?_loadState hget) hfresh (fun _ => rfl)
        (fun _ => rfl) (fun _ => rfl) (fun _ => rfl) ?_ hreconcile
      intro existing _ hsame
      exact sameDeviceRequest_refresh hsame

theorem release_step {file : DevicePairingStateFile} {events : List TokenEvent}
    (hfile : file = history.file ∨ ∃ loadedAt, ∀ id pending,
      file.pendingById.get? id = some pending →
        (history.file.loadState loadedAt).pendingById.get? id = some pending) :
    Step (·.requestId) (·.deviceId) SameDeviceRequest history.ledger
      (history.after file events).ledger := by
  rcases hfile with rfl | ⟨loadedAt, hsub⟩
  · exact .release (fun _ _ hget => hget) rfl
  · exact .release (fun id pending hget => get?_of_get?_loadState (hsub id pending hget)) rfl

theorem get?_of_get?_delete {Key Value : Type*} [DecidableEq Key]
    {map : InsertionMap Key Value} {key other : Key} {value : Value}
    (hget : (map.delete key).get? other = some value) :
    map.get? other = some value := by
  rw [InsertionMap.get?_delete] at hget
  split at hget
  next => simp at hget
  next => exact hget

theorem device_step {next : DeviceHistory} {action : DeviceAction}
    (hvalid : Valid (·.requestId) (·.deviceId) history.ledger)
    (hstep : history.step action = some next) :
    Step (·.requestId) (·.deviceId) SameDeviceRequest history.ledger
      next.ledger := by
  cases action
  case request => exact deviceRequest_step hvalid hstep
  all_goals
    cases hstep
    apply release_step
  case approve =>
    rcases approveDevicePairing_cases Prod.mk.eta.symm with
      ⟨hfile, -⟩ | ⟨pending, -, -, hfile, -⟩
    · exact .inl hfile
    · rw [hfile]
      exact .inr ⟨_, fun _ _ => get?_of_get?_delete⟩
  case approveBootstrap =>
    rcases approveBootstrapDevicePairing_cases rfl rfl Prod.mk.eta.symm with
      ⟨hfile, -⟩ | ⟨pending, -, -, hfile, -⟩
    · exact .inl hfile
    · rw [hfile]
      exact .inr ⟨_, fun _ _ => get?_of_get?_delete⟩
  case reject =>
    rcases rejectDevicePairing_cases Prod.mk.eta.symm with hfile | hfile
    · exact .inl hfile
    · rw [hfile]
      exact .inr ⟨_, fun _ _ => get?_of_get?_delete⟩
  case remove =>
    rcases removePairedDevice_cases Prod.mk.eta.symm with ⟨hfile, -⟩ | ⟨hfile, -⟩
    · exact .inl hfile
    · rw [hfile]
      exact .inr ⟨_, fun _ _ hget => hget⟩
  case clear =>
    rcases clearDevicePairing_cases Prod.mk.eta.symm with ⟨hfile, -⟩ | ⟨hfile, -⟩
    · exact .inl hfile
    · rw [hfile]
      exact .inr ⟨_, fun _ _ hget => hget⟩
  case verify =>
    rcases verifyDeviceToken_cases Prod.mk.eta.symm with
      ⟨hfile, -⟩ | ⟨device, entry, -, -, -, -, hfile, -⟩
    · exact .inl hfile
    · rw [hfile]
      exact .inr ⟨_, fun _ _ hget => hget⟩
  case ensure =>
    rcases ensureDeviceToken_cases Prod.mk.eta.symm with
      ⟨hfile, -⟩ | ⟨device, entry, -, -, hfile, -⟩
    · exact .inl hfile
    · rw [hfile]
      exact .inr ⟨_, fun _ _ hget => hget⟩
  case rotate =>
    rcases rotateDeviceToken_cases Prod.mk.eta.symm with
      ⟨hfile, -⟩ | ⟨device, entry, -, -, hfile, -⟩
    · exact .inl hfile
    · rw [hfile]
      exact .inr ⟨_, fun _ _ hget => hget⟩
  case revoke =>
    rcases revokeDeviceToken_cases Prod.mk.eta.symm with
      ⟨hfile, -⟩ | ⟨device, entry, -, -, hfile, -⟩
    · exact .inl hfile
    · rw [hfile]
      exact .inr ⟨_, fun _ _ hget => hget⟩

/-! ## Node requests -/

structure NodeHistory where
  file : NodePairingStateFile
  requestIds : List JsString

inductive NodeAction where
  | request (req : NodePairingRequestInput) (requestId : JsString) (loadedAt now : Clock)
  | approve (requestId : JsString) (callerScopes : Option (List JsString))
      (newToken : JsString) (loadedAt now : Clock)
  | reject (requestId : JsString) (loadedAt : Clock)

namespace NodeHistory

def empty : NodeHistory := ⟨.empty, []⟩

def ledger (history : NodeHistory) : Ledger JsString NodePairingPendingRequest :=
  ⟨history.file.pendingById, history.requestIds⟩

def step (history : NodeHistory) : NodeAction → Option NodeHistory
  | .request req requestId loadedAt now =>
    if requestId ∈ history.requestIds then none
    else
      match requestNodePairing history.file req requestId loadedAt now with
      | none => some history
      | some (file, result) =>
        some
          { file := file
            requestIds :=
              if result.created then requestId :: history.requestIds
              else history.requestIds }
  | .approve requestId callerScopes newToken loadedAt now =>
    some { history with
      file := (approveNodePairing history.file requestId callerScopes newToken loadedAt now).1 }
  | .reject requestId loadedAt =>
    some { history with
      file := (rejectNodePairing history.file requestId loadedAt).1 }

end NodeHistory

structure SameNodeRequest (first last : NodePairingPendingRequest) : Prop where
  nodeId : last.nodeId = first.nodeId
  caps : last.caps = first.caps
  commands : last.commands = first.commands
  permissions : last.permissions = first.permissions
  ts : last.ts = first.ts
  interactive : first.silent ≠ some true → last.silent ≠ some true

theorem SameNodeRequest.refl (request : NodePairingPendingRequest) :
    SameNodeRequest request request := by
  constructor <;> simp

theorem SameNodeRequest.trans {first second third : NodePairingPendingRequest}
    (hfirst : SameNodeRequest first second)
    (hsecond : SameNodeRequest second third) : SameNodeRequest first third where
  nodeId := hsecond.nodeId.trans hfirst.nodeId
  caps := hsecond.caps.trans hfirst.caps
  commands := hsecond.commands.trans hfirst.commands
  permissions := hsecond.permissions.trans hfirst.permissions
  ts := hsecond.ts.trans hfirst.ts
  interactive := hsecond.interactive ∘ hfirst.interactive

/-- The request declares, of what it declares at all, what the pending request
holds, in the millisecond of its creation. -/
def redeclares (existing : NodePairingPendingRequest)
    (req : NodePairingRequestInput) (now : Clock) : Bool :=
  (normalizeArrayBackedTrimmedStringList req.caps).all
      (fun caps => decide (existing.caps = some caps)) &&
    (normalizeArrayBackedTrimmedStringList req.commands).all
      (fun commands => decide (existing.commands = some commands)) &&
    req.permissions.all (fun permissions => decide (existing.permissions = some permissions)) &&
    decide (existing.ts = now)

def NodeHistory.redeclared (history : NodeHistory) : NodeAction → Bool
  | .request req _ loadedAt now =>
    match pendingFor (·.ts) (·.nodeId)
        (history.file.loadState loadedAt).pendingById (trim req.nodeId) with
    | [existing] => redeclares existing req now
    | _ => true
  | _ => true

theorem or_eq_of_all {α : Type*} [DecidableEq α] {given held : Option α}
    (hall : given.all (fun value => decide (held = some value)) = true) :
    given.or held = held := by
  cases given with
  | none => rfl
  | some value =>
    have hheld : held = some value := by simpa using hall
    simp [hheld]

theorem sameNodeRequest_refresh {existing : NodePairingPendingRequest}
    {incoming : NodePairingRequestInput}
    (hsame : redeclares existing incoming now = true) :
    SameNodeRequest existing (refreshPendingNodePairingRequest now existing incoming) := by
  simp only [redeclares, Bool.and_eq_true, decide_eq_true_eq] at hsame
  obtain ⟨⟨⟨hcaps, hcommands⟩, hpermissions⟩, hts⟩ := hsame
  constructor
  case nodeId => rfl
  case caps => exact or_eq_of_all hcaps
  case commands => exact or_eq_of_all hcommands
  case permissions => exact or_eq_of_all hpermissions
  case ts => exact hts.symm
  case interactive => exact silent_refresh

theorem requestNodePairing_eq_some {file file' : NodePairingStateFile}
    {req : NodePairingRequestInput}
    {result : PendingPairingRequestResult NodePairingPendingRequest}
    (hrequest : requestNodePairing file req requestId loadedAt now = some (file', result)) :
    reconcilePendingPairingRequests (·.requestId) (file.loadState loadedAt).pendingById
      (pendingFor (·.ts) (·.nodeId) (file.loadState loadedAt).pendingById (trim req.nodeId))
      { req with nodeId := trim req.nodeId } (fun _ _ => true)
      (refreshPendingNodePairingRequest now)
      (fun existing incoming => buildPendingNodePairingRequest requestId
        { incoming with
          silent := some (incoming.silent.getD false &&
            existing.all fun pending => decide (pending.silent = some true)) }
        now) =
      (file'.pendingById, result) := by
  obtain ⟨nodeId, hnodeId, hresult⟩ := Option.map_eq_some_iff.mp hrequest
  cases hresult
  obtain ⟨-, rfl⟩ := nonBlank_eq_some.mp hnodeId
  rfl

theorem node_step {history next : NodeHistory} {action : NodeAction}
    {refreshes : NodePairingPendingRequest → NodePairingPendingRequest → Prop}
    (hrefreshes : ∀ req requestId loadedAt now existing,
      action = .request req requestId loadedAt now →
      pendingFor (·.ts) (·.nodeId) (history.file.loadState loadedAt).pendingById
        (trim req.nodeId) = [existing] →
      refreshes existing (refreshPendingNodePairingRequest now existing
        { req with nodeId := trim req.nodeId }))
    (hvalid : Valid (·.requestId) (·.nodeId) history.ledger)
    (hstep : history.step action = some next) :
    Step (·.requestId) (·.nodeId) refreshes history.ledger next.ledger := by
  cases action with
  | request req requestId loadedAt now =>
    simp only [NodeHistory.step] at hstep
    split at hstep
    next => simp at hstep
    next hfresh =>
      split at hstep
      next =>
        cases hstep
        exact .release (fun _ _ hget => hget) rfl
      next file result hrequest =>
        cases hstep
        refine reconcilePendingPairingRequests_step hvalid
          (fun _ _ hget => get?_of_get?_pruneExpiredPending hget) hfresh
          (fun _ => rfl) (fun _ => rfl) (fun _ => rfl) (fun _ => rfl) ?_
          (requestNodePairing_eq_some hrequest)
        intro existing hexisting _
        exact hrefreshes req requestId loadedAt now existing rfl hexisting
  | approve requestId callerScopes newToken loadedAt now =>
    cases hstep
    refine .release ?_ rfl
    intro id pending hget
    simp only [NodeHistory.ledger, approveNodePairing] at hget
    split at hget
    next => exact hget
    next =>
      split at hget
      next => exact hget
      next =>
        exact get?_of_get?_pruneExpiredPending (get?_of_get?_delete hget)
  | reject requestId loadedAt =>
    cases hstep
    refine .release ?_ rfl
    intro id pending hget
    simp only [NodeHistory.ledger, rejectNodePairing] at hget
    split at hget
    next => exact hget
    next rest _ hreject =>
      obtain ⟨_, -, hpair⟩ := Option.map_eq_some_iff.mp hreject
      cases hpair
      exact get?_of_get?_pruneExpiredPending (get?_of_get?_delete hget)

/-! ## Both stores -/

structure PairingStores where
  devices : DeviceHistory
  nodes : NodeHistory

inductive PairingAction where
  | device (action : DeviceAction)
  | node (action : NodeAction)

namespace PairingStores

def empty : PairingStores := ⟨.empty, .empty⟩

def step (stores : PairingStores) : PairingAction → Option PairingStores
  | .device action =>
    (stores.devices.step action).map fun devices =>
      { stores with devices := devices }
  | .node action =>
    (stores.nodes.step action).map fun nodes => { stores with nodes := nodes }

def Redeclared (stores : PairingStores) : PairingAction → Prop
  | .device _ => True
  | .node action => stores.nodes.redeclared action = true

instance (stores : PairingStores) (action : PairingAction) :
    Decidable (stores.Redeclared action) := by
  unfold Redeclared
  cases action <;> infer_instance

variable {next stores : PairingStores} {action : PairingAction}

theorem devices_step (hvalid : Valid (·.requestId) (·.deviceId) stores.devices.ledger)
    (hstep : stores.step action = some next) :
    Step (·.requestId) (·.deviceId) SameDeviceRequest stores.devices.ledger
      next.devices.ledger := by
  cases action with
  | device action =>
    obtain ⟨devices, hdevices, rfl⟩ := Option.map_eq_some_iff.mp hstep
    exact device_step hvalid hdevices
  | node action =>
    obtain ⟨nodes, -, rfl⟩ := Option.map_eq_some_iff.mp hstep
    exact .release (fun _ _ hget => hget) rfl

theorem nodes_step (hvalid : Valid (·.requestId) (·.nodeId) stores.nodes.ledger)
    (hstep : stores.step action = some next) :
    Step (·.requestId) (·.nodeId) (fun _ _ => True) stores.nodes.ledger
      next.nodes.ledger := by
  cases action with
  | device action =>
    obtain ⟨devices, -, rfl⟩ := Option.map_eq_some_iff.mp hstep
    exact .release (fun _ _ hget => hget) rfl
  | node action =>
    obtain ⟨nodes, hnodes, rfl⟩ := Option.map_eq_some_iff.mp hstep
    exact node_step (fun _ _ _ _ _ _ _ => trivial) hvalid hnodes

theorem nodes_step_of_redeclared (hvalid : Valid (·.requestId) (·.nodeId) stores.nodes.ledger)
    (hredeclared : stores.Redeclared action)
    (hstep : stores.step action = some next) :
    Step (·.requestId) (·.nodeId) SameNodeRequest stores.nodes.ledger
      next.nodes.ledger := by
  cases action with
  | device action =>
    obtain ⟨devices, -, rfl⟩ := Option.map_eq_some_iff.mp hstep
    exact .release (fun _ _ hget => hget) rfl
  | node action =>
    obtain ⟨nodes, hnodes, rfl⟩ := Option.map_eq_some_iff.mp hstep
    refine node_step ?_ hvalid hnodes
    rintro req requestId loadedAt now existing rfl hexisting
    simp only [Redeclared, NodeHistory.redeclared, hexisting] at hredeclared
    exact sameNodeRequest_refresh hredeclared

end PairingStores

theorem mem_listDevicePairing {file : DevicePairingStateFile} {listedAt : Clock}
    {shown : DevicePairingPendingRequest}
    (hshown : shown ∈ (listDevicePairing file listedAt).1) :
    ∃ id, file.pendingById.get? id = some shown := by
  simp only [listDevicePairing, sortLatestFirst, List.mem_insertionSort,
    InsertionMap.mem_values] at hshown
  obtain ⟨id, hget⟩ := hshown
  exact ⟨id, get?_of_get?_loadState hget⟩

theorem mem_listNodePairing {file : NodePairingStateFile} {listedAt : Clock}
    {shown : NodePairingPendingRequest} {scopes : List JsString}
    (hshown : (shown, scopes) ∈ (listNodePairing file listedAt).1) :
    ∃ id, file.pendingById.get? id = some shown := by
  simp only [listNodePairing, sortLatestFirst, List.mem_map,
    List.mem_insertionSort, InsertionMap.mem_values, Prod.mk.injEq] at hshown
  obtain ⟨_, ⟨id, hget⟩, rfl, -⟩ := hshown
  exact ⟨id, get?_of_get?_pruneExpiredPending hget⟩

theorem approveNodePairing_cases {file file' : NodePairingStateFile}
    {newToken : JsString} {callerScopes : Option (List JsString)}
    {id : JsString} {node : NodePairingPairedNode}
    (happrove : approveNodePairing file requestId callerScopes newToken loadedAt
      now = (file', some (.approved id node))) :
    ∃ pending, file.pendingById.get? requestId = some pending ∧
      node.nodeId = pending.nodeId ∧ node.caps = pending.caps ∧
      node.commands = pending.commands ∧
      node.permissions = pending.permissions := by
  simp only [approveNodePairing] at happrove
  split at happrove
  next => simp at happrove
  next pending hpending =>
    split at happrove
    next => simp at happrove
    next =>
      obtain ⟨-, -, rfl⟩ := happrove
      exact ⟨pending, get?_of_get?_pruneExpiredPending hpending, rfl, rfl, rfl, rfl⟩

/-- What holds between an earlier and a later moment of the stores. -/
structure RequestsKept (earlier later : PairingStores) : Prop where
  oneDeviceRequest : OnePerSubject (·.deviceId) later.devices.file.pendingById
  oneNodeRequest : OnePerSubject (·.nodeId) later.nodes.file.pendingById
  deviceRequest : ∀ id first last, earlier.devices.file.pendingById.get? id = some first →
      later.devices.file.pendingById.get? id = some last → SameDeviceRequest first last
  nodeRequest : ∀ id first last, earlier.nodes.file.pendingById.get? id = some first →
      later.nodes.file.pendingById.get? id = some last → SameNodeRequest first last
  deviceApproval : ∀ listedAt, ∀ shown ∈ (listDevicePairing earlier.devices.file listedAt).1,
    ∀ callerScopes newToken loadedAt now file' id device,
      approveDevicePairing later.devices.file shown.requestId callerScopes
          newToken loadedAt now = (file', some (.approved id device)) →
        ∃ pending, SameDeviceRequest shown pending ∧
          device = approvalDevice (later.devices.file.loadState loadedAt) pending newToken now
  bootstrapApproval : ∀ listedAt, ∀ shown ∈ (listDevicePairing earlier.devices.file listedAt).1,
    ∀ profile newToken loadedAt now file' id device,
      approveBootstrapDevicePairing later.devices.file shown.requestId profile
          newToken loadedAt now = (file', some (.approved id device)) →
        ∃ pending, SameDeviceRequest shown pending ∧
          device = bootstrapDevice (later.devices.file.loadState loadedAt)
            pending ((mergeRoles [some profile.roles]).getD [])
            (normalizeDeviceAuthScopes (some profile.scopes)) newToken now
  nodeApproval : ∀ listedAt shown scopes,
    (shown, scopes) ∈ (listNodePairing earlier.nodes.file listedAt).1 →
    ∀ callerScopes newToken loadedAt now file' id node,
      approveNodePairing later.nodes.file shown.requestId callerScopes newToken
          loadedAt now = (file', some (.approved id node)) →
        node.nodeId = shown.nodeId ∧ node.caps = shown.caps ∧
          node.commands = shown.commands ∧ node.permissions = shown.permissions

/-- While every node request that refreshes a pending one redeclares it, pending
requests keep their content and creation time, at most one per device or node is
pending, an interactive one never becomes silent, and an approval grants what
any earlier listing showed under the id. -/
theorem pairing_requests_kept {earlier later : PairingStores} {actions : List PairingAction}
    (hreach : Reachable PairingStores.step .empty earlier)
    (hguarded : Guarded PairingStores.step PairingStores.Redeclared earlier actions)
    (hrun : run PairingStores.step earlier actions = some later) :
    RequestsKept earlier later := by
  obtain ⟨before, hbefore⟩ := hreach
  have hdevices : Valid (·.requestId) (·.deviceId) earlier.devices.ledger :=
    @run_valid _ _ _ _ _ _ _ _ _ (fun stores => stores.devices.ledger)
      (fun _ _ _ => PairingStores.devices_step) _ _ _ (valid_empty _ _) hbefore
  have hnodes : Valid (·.requestId) (·.nodeId) earlier.nodes.ledger :=
    @run_valid _ _ _ _ _ _ _ _ _ (fun stores => stores.nodes.ledger)
      (fun _ _ _ => PairingStores.nodes_step) _ _ _ (valid_empty _ _) hbefore
  have hdevicesLater := @run_valid _ _ _ _ _ _ _ _ _
    (fun stores : PairingStores => stores.devices.ledger)
    (fun _ _ _ => PairingStores.devices_step) _ _ _ hdevices hrun
  have hnodesLater := @run_valid _ _ _ _ _ _ _ _ _
    (fun stores : PairingStores => stores.nodes.ledger)
    (fun _ _ _ => PairingStores.nodes_step) _ _ _ hnodes hrun
  have hdevice : ∀ id first last, earlier.devices.file.pendingById.get? id = some first →
        later.devices.file.pendingById.get? id = some last → SameDeviceRequest first last := by
    intro id first last hfirst hlast
    exact @run_keeps _ _ _ _ _ _ _ _ _ (fun stores : PairingStores => stores.devices.ledger) _
      (fun _ _ _ hvalid _ hstep => PairingStores.devices_step hvalid hstep) _
      SameDeviceRequest.refl (fun _ _ _ => SameDeviceRequest.trans)
      (fun _ _ hsame => hsame) _ _ _ hdevices hguarded hrun _ _ _ hfirst hlast
  have hnode : ∀ id first last, earlier.nodes.file.pendingById.get? id = some first →
        later.nodes.file.pendingById.get? id = some last → SameNodeRequest first last := by
    intro id first last hfirst hlast
    exact @run_keeps _ _ _ _ _ _ _ _ _ (fun stores : PairingStores => stores.nodes.ledger) _
      (fun _ _ _ => PairingStores.nodes_step_of_redeclared) _
      SameNodeRequest.refl (fun _ _ _ => SameNodeRequest.trans)
      (fun _ _ hsame => hsame) _ _ _ hnodes hguarded hrun _ _ _ hfirst hlast
  constructor
  case oneDeviceRequest => exact hdevicesLater.onePerSubject
  case oneNodeRequest => exact hnodesLater.onePerSubject
  case deviceRequest => exact hdevice
  case nodeRequest => exact hnode
  case deviceApproval =>
    intro listedAt shown hshown callerScopes newToken loadedAt now file' id device happrove
    obtain ⟨shownId, hfirst⟩ := mem_listDevicePairing hshown
    obtain rfl := hdevices.filed shownId shown hfirst
    rcases approveDevicePairing_cases happrove with
      ⟨-, hnot⟩ | ⟨pending, hpending, -, -, hresult⟩
    · exact absurd rfl (hnot id device)
    · simp only [Option.some.injEq, ApproveDevicePairingResult.approved.injEq] at hresult
      exact ⟨pending, hdevice _ _ _ hfirst (get?_of_get?_loadState hpending), hresult.2⟩
  case bootstrapApproval =>
    intro listedAt shown hshown profile newToken loadedAt now file' id device happrove
    obtain ⟨shownId, hfirst⟩ := mem_listDevicePairing hshown
    obtain rfl := hdevices.filed shownId shown hfirst
    rcases approveBootstrapDevicePairing_cases rfl rfl happrove with
      ⟨-, hnot⟩ | ⟨pending, hpending, -, -, hresult⟩
    · exact absurd rfl (hnot id device)
    · simp only [Option.some.injEq, ApproveDevicePairingResult.approved.injEq] at hresult
      exact ⟨pending, hdevice _ _ _ hfirst (get?_of_get?_loadState hpending), hresult.2⟩
  case nodeApproval =>
    intro listedAt shown scopes hshown callerScopes newToken loadedAt now file' id node happrove
    obtain ⟨shownId, hfirst⟩ := mem_listNodePairing hshown
    obtain rfl := hnodes.filed shownId shown hfirst
    obtain ⟨pending, hpending, hnodeId, hcaps, hcommands, hpermissions⟩ :=
      approveNodePairing_cases happrove
    have hsame := hnode _ _ _ hfirst hpending
    exact ⟨hnodeId.trans hsame.nodeId, hcaps.trans hsame.caps,
      hcommands.trans hsame.commands, hpermissions.trans hsame.permissions⟩

theorem pairing_requests_kept_visible : ∃ earlier later,
      run PairingStores.step .empty [.device (.request
          { deviceId := js "d", publicKey := js "k", role := some (js "node") }
          (js "r1") 1 1)] = some earlier ∧
      run PairingStores.step earlier [.device (.request
          { deviceId := js "d", publicKey := js "k", role := some (js "node"),
            silent := some true }
          (js "r2") 2 2)] = some later ∧
      later.devices.file.pendingById.keys = [js "r1"] ∧
      RequestsKept earlier later := by
  have hruns : ((run PairingStores.step .empty [.device (.request
        { deviceId := js "d", publicKey := js "k", role := some (js "node") }
        (js "r1") 1 1)]).bind fun earlier =>
      (run PairingStores.step earlier [.device (.request
          { deviceId := js "d", publicKey := js "k", role := some (js "node"),
            silent := some true }
          (js "r2") 2 2)]).map fun later =>
            later.devices.file.pendingById.keys) = some [js "r1"] := by
    decide
  obtain ⟨earlier, hearlier, hrest⟩ := Option.bind_eq_some_iff.mp hruns
  obtain ⟨later, hlater, hkeys⟩ := Option.map_eq_some_iff.mp hrest
  exact ⟨earlier, later, hearlier, hlater, hkeys,
    pairing_requests_kept ⟨_, hearlier⟩ (by simp [Guarded, PairingStores.Redeclared])
      hlater⟩

/-- A node declares a harmless command, is listed, and declares another one
before the approval: the id that was shown now approves `system.run`. -/
theorem node_request_swapped : ∃ earlier later, run PairingStores.step .empty
        [.node (.request { nodeId := js "n", commands := some [js "camera.list"] }
          (js "r1") 1000 1000)] = some earlier ∧
      run PairingStores.step earlier [.node (.request
          { nodeId := js "n", commands := some [js "system.run"] }
          (js "r2") 2000 2000)] = some later ∧
      (earlier.nodes.file.pendingById.get? (js "r1")).bind (·.commands) = some [js "camera.list"] ∧
      (later.nodes.file.pendingById.get? (js "r1")).bind (·.commands) = some [js "system.run"] ∧
      ¬RequestsKept earlier later := by
  have hruns : ((run PairingStores.step .empty [.node (.request
        { nodeId := js "n", commands := some [js "camera.list"] }
        (js "r1") 1000 1000)]).bind fun earlier =>
      (run PairingStores.step earlier [.node (.request
          { nodeId := js "n", commands := some [js "system.run"] }
          (js "r2") 2000 2000)]).map fun later =>
            ((earlier.nodes.file.pendingById.get? (js "r1")).bind (·.commands),
              (later.nodes.file.pendingById.get? (js "r1")).bind (·.commands))) =
        some (some [js "camera.list"], some [js "system.run"]) := by
    decide
  obtain ⟨earlier, hearlier, hrest⟩ := Option.bind_eq_some_iff.mp hruns
  obtain ⟨later, hlater, hpair⟩ := Option.map_eq_some_iff.mp hrest
  obtain ⟨hshown, hswapped⟩ := Prod.mk.inj hpair
  refine ⟨earlier, later, hearlier, hlater, hshown, hswapped, ?_⟩
  intro hkept
  obtain ⟨first, hfirst, hfirstCommands⟩ := Option.bind_eq_some_iff.mp hshown
  obtain ⟨last, hlast, hlastCommands⟩ := Option.bind_eq_some_iff.mp hswapped
  have hsame := (hkept.nodeRequest _ first last hfirst hlast).commands
  rw [hfirstCommands, hlastCommands] at hsame
  exact absurd hsame (by decide)

end LittleBaby.Pairing
