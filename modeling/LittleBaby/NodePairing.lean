import LittleBaby.DevicePairing

/-!
# Node pairing

The sibling of the device store: a node declares capabilities, commands and
permissions, and a request for a node with one pending request always refreshes
it in place.
-/

namespace LittleBaby.Pairing

open JsString

structure NodeMetadata where
  displayName : Option JsString := none
  platform : Option JsString := none
  version : Option JsString := none
  coreVersion : Option JsString := none
  uiVersion : Option JsString := none
  deviceFamily : Option JsString := none
  modelIdentifier : Option JsString := none
  remoteIp : Option JsString := none

def NodeMetadata.refresh (existing incoming : NodeMetadata) : NodeMetadata where
  displayName := incoming.displayName.or existing.displayName
  platform := incoming.platform.or existing.platform
  version := incoming.version.or existing.version
  coreVersion := incoming.coreVersion.or existing.coreVersion
  uiVersion := incoming.uiVersion.or existing.uiVersion
  deviceFamily := incoming.deviceFamily.or existing.deviceFamily
  modelIdentifier := incoming.modelIdentifier.or existing.modelIdentifier
  remoteIp := incoming.remoteIp.or existing.remoteIp

structure NodePairingRequestInput where
  nodeId : JsString
  metadata : NodeMetadata := {}
  caps : Option (List JsString) := none
  commands : Option (List JsString) := none
  permissions : Option (List (JsString × Bool)) := none
  silent : Option Bool := none

structure NodePairingPendingRequest extends NodePairingRequestInput where
  requestId : JsString
  ts : ℕ

structure NodePairingPairedNode where
  nodeId : JsString
  token : JsString
  metadata : NodeMetadata
  caps : Option (List JsString)
  commands : Option (List JsString)
  permissions : Option (List (JsString × Bool))
  createdAtMs : ℕ
  approvedAtMs : ℕ

structure NodePairingStateFile where
  pendingById : InsertionMap JsString NodePairingPendingRequest
  pairedByNodeId : InsertionMap JsString NodePairingPairedNode

def NodePairingStateFile.empty : NodePairingStateFile := ⟨.empty, .empty⟩

variable (file : NodePairingStateFile)

def NodePairingStateFile.loadState (now : Clock) : NodePairingStateFile :=
  { file with
    pendingById := pruneExpiredPending (·.ts) file.pendingById now pendingTtlMs }

def normalizeArrayBackedTrimmedStringList (value : Option (List JsString)) :
    Option (List JsString) :=
  value.map fun list => list.filterMap nonBlank

variable (requestId : JsString)

def buildPendingNodePairingRequest (req : NodePairingRequestInput) (now : Clock) :
    NodePairingPendingRequest where
  requestId := requestId
  nodeId := req.nodeId
  metadata := req.metadata
  caps := normalizeArrayBackedTrimmedStringList req.caps
  commands := normalizeArrayBackedTrimmedStringList req.commands
  permissions := req.permissions
  silent := req.silent
  ts := now

def refreshPendingNodePairingRequest (now : Clock)
    (existing : NodePairingPendingRequest) (incoming : NodePairingRequestInput) :
    NodePairingPendingRequest :=
  { existing with
    metadata := existing.metadata.refresh incoming.metadata
    caps := (normalizeArrayBackedTrimmedStringList incoming.caps).or existing.caps
    commands := (normalizeArrayBackedTrimmedStringList incoming.commands).or existing.commands
    permissions := incoming.permissions.or existing.permissions
    silent := some (existing.silent.getD false && incoming.silent.getD false)
    ts := now }

/-- `none` stands for the error "nodeId required". -/
def requestNodePairing (req : NodePairingRequestInput) (requestId : JsString)
    (loadedAt now : Clock) :
    Option (NodePairingStateFile × PendingPairingRequestResult NodePairingPendingRequest) :=
  let state := file.loadState loadedAt
  (nonBlank req.nodeId).map fun nodeId =>
    let reconciled := reconcilePendingPairingRequests (·.requestId) state.pendingById
      (pendingFor (·.ts) (·.nodeId) state.pendingById nodeId)
      { req with nodeId := nodeId } (fun _ _ => true)
      (refreshPendingNodePairingRequest now)
      (fun existing incoming => buildPendingNodePairingRequest requestId { incoming with
          silent := some (incoming.silent.getD false &&
            existing.all fun pending => decide (pending.silent = some true)) }
        now)
    ({ state with pendingById := reconciled.1 }, reconciled.2)

def nodeSystemRunCommands : List JsString :=
  [js "system.run.prepare", js "system.run", js "system.which"]

def resolveNodePairApprovalScopes (commands : List JsString) : List JsString :=
  if commands.any fun command => decide (command ∈ nodeSystemRunCommands) then
    [js "operator.pairing", operatorAdminScope]
  else if 0 < commands.length then [js "operator.pairing", operatorWriteScope]
  else [js "operator.pairing"]

inductive ApproveNodePairingResult where
  | approved (requestId : JsString) (node : NodePairingPairedNode)
  | forbidden (missingScope : JsString)

def approvedNode (pending : NodePairingPendingRequest)
    (existing : Option NodePairingPairedNode) (token : JsString) (now : Clock) :
    NodePairingPairedNode where
  nodeId := pending.nodeId
  token := token
  metadata := pending.metadata
  caps := pending.caps
  commands := pending.commands
  permissions := pending.permissions
  createdAtMs := (existing.map (·.createdAtMs)).getD now
  approvedAtMs := now

def approveNodePairing (callerScopes : Option (List JsString)) (newToken : JsString)
    (loadedAt now : Clock) :
    NodePairingStateFile × Option ApproveNodePairingResult :=
  let state := file.loadState loadedAt
  match state.pendingById.get? requestId with
  | none => (file, none)
  | some pending =>
    match resolveMissingRequestedScope operatorRole
        (resolveNodePairApprovalScopes (pending.commands.getD []))
        (callerScopes.getD []) with
    | some missingScope => (file, some (.forbidden missingScope))
    | none =>
      let node := approvedNode pending (state.pairedByNodeId.get? pending.nodeId) newToken now
      ({ pendingById := state.pendingById.delete requestId
         pairedByNodeId := state.pairedByNodeId.set pending.nodeId node },
        some (.approved requestId node))

def rejectNodePairing (loadedAt : Clock) : NodePairingStateFile × Option (JsString × JsString) :=
  let state := file.loadState loadedAt
  match rejectPendingPairingRequest state.pendingById requestId with
  | none => (file, none)
  | some (pendingById, pending) =>
    ({ state with pendingById := pendingById }, some (requestId, pending.nodeId))

def listNodePairing (loadedAt : Clock) : List (NodePairingPendingRequest × List JsString) ×
      List NodePairingPairedNode :=
  let state := file.loadState loadedAt
  ((sortLatestFirst (·.ts) state.pendingById.values).map fun pending =>
      (pending, resolveNodePairApprovalScopes (pending.commands.getD [])),
    sortLatestFirst (·.approvedAtMs) state.pairedByNodeId.values)

end LittleBaby.Pairing
