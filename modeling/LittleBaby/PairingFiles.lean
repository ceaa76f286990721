import LittleBaby.PendingLedger
import Mathlib.Data.List.Sort

/-!
# Pending pairing requests

Device and node pairing share one way of keeping their pending requests: a
record by request id, pruned of what is too old whenever it is loaded, in which
a new request for a subject refreshes its only pending request or replaces all
of them.
-/

namespace LittleBaby.Pairing

open PendingLedger

variable {RequestId Pending Incoming Subject : Type*}

def pruneExpiredPending (ts : Pending → ℕ)
    (pendingById : InsertionMap RequestId Pending) (nowMs ttlMs : ℕ) :
    InsertionMap RequestId Pending :=
  pendingById.filter fun _ req => !decide (ttlMs < nowMs - ts req)

/-- `toSorted((left, right) => right.ts - left.ts)`. -/
def sortLatestFirst (ts : Pending → ℕ) (requests : List Pending) : List Pending :=
  requests.insertionSort fun left right => ts right ≤ ts left

def pendingFor [DecidableEq Subject] (ts : Pending → ℕ)
    (subject : Pending → Subject) (pendingById : InsertionMap RequestId Pending)
    (key : Subject) : List Pending :=
  sortLatestFirst ts (pendingById.values.filter fun pending => decide (subject pending = key))

structure PendingPairingRequestResult (Pending : Type*) where
  request : Pending
  created : Bool

section Reconcile

variable [DecidableEq RequestId]

def deleteAll (requestId : Pending → RequestId)
    (pendingById : InsertionMap RequestId Pending) (existing : List Pending) :
    InsertionMap RequestId Pending :=
  existing.foldl (fun map pending => map.delete (requestId pending)) pendingById

def replacePending (requestId : Pending → RequestId)
    (pendingById : InsertionMap RequestId Pending) (existing : List Pending)
    (request : Pending) :
    InsertionMap RequestId Pending × PendingPairingRequestResult Pending :=
  ((deleteAll requestId pendingById existing).set (requestId request) request, ⟨request, true⟩)

def reconcilePendingPairingRequests (requestId : Pending → RequestId)
    (pendingById : InsertionMap RequestId Pending) (existing : List Pending)
    (incoming : Incoming) (canRefreshSingle : Pending → Incoming → Bool)
    (refreshSingle : Pending → Incoming → Pending)
    (buildReplacement : List Pending → Incoming → Pending) :
    InsertionMap RequestId Pending × PendingPairingRequestResult Pending :=
  match existing with
  | [single] =>
    if canRefreshSingle single incoming then
      (pendingById.set (requestId (refreshSingle single incoming)) (refreshSingle single incoming),
        ⟨refreshSingle single incoming, false⟩)
    else
      replacePending requestId pendingById existing (buildReplacement existing incoming)
  | _ =>
    replacePending requestId pendingById existing (buildReplacement existing incoming)

/-- `rejectPendingPairingRequest`, with the request that was deleted. -/
def rejectPendingPairingRequest
    (pendingById : InsertionMap RequestId Pending) (requestId : RequestId) :
    Option (InsertionMap RequestId Pending × Pending) :=
  (pendingById.get? requestId).map fun pending =>
    (pendingById.delete requestId, pending)

end Reconcile

theorem get?_of_get?_pruneExpiredPending {ts : Pending → ℕ}
    {pendingById : InsertionMap RequestId Pending} {nowMs ttlMs : ℕ}
    {id : RequestId} {pending : Pending}
    (hget : (pruneExpiredPending ts pendingById nowMs ttlMs).get? id =
      some pending) : pendingById.get? id = some pending := by
  simp only [pruneExpiredPending, InsertionMap.get?_filter, Option.filter_eq_some_iff] at hget
  exact hget.1

variable {key : Subject}

@[simp] theorem mem_pendingFor [DecidableEq Subject] {ts : Pending → ℕ}
    {subject : Pending → Subject}
    {pendingById : InsertionMap RequestId Pending}
    {pending : Pending} :
    pending ∈ pendingFor ts subject pendingById key ↔
      (∃ id, pendingById.get? id = some pending) ∧ subject pending = key := by
  simp [pendingFor, sortLatestFirst, List.mem_insertionSort, InsertionMap.mem_values]

variable [DecidableEq RequestId]

theorem get?_deleteAll (requestId : Pending → RequestId)
    (pendingById : InsertionMap RequestId Pending) (existing : List Pending)
    (id : RequestId) :
    (deleteAll requestId pendingById existing).get? id =
      if id ∈ existing.map requestId then none else pendingById.get? id := by
  induction existing generalizing pendingById with
  | nil => simp [deleteAll]
  | cons first rest ih =>
    have hrest := ih (pendingById.delete (requestId first))
    simp only [deleteAll, List.foldl_cons] at hrest ⊢
    rw [hrest]
    by_cases heq : id = requestId first
    · simp [heq]
    · simp [heq]

section Reconciled

variable [DecidableEq Subject] {ts : Pending → ℕ}
  {requestId : Pending → RequestId} {subject : Pending → Subject}
  {pendingById after : InsertionMap RequestId Pending}

theorem get?_deleteAll_pendingFor (hfiled : Filed requestId pendingById)
    (key : Subject) (id : RequestId) :
    (deleteAll requestId pendingById (pendingFor ts subject pendingById key)).get? id =
        (pendingById.get? id).filter fun pending => decide (subject pending ≠ key) := by
  rw [get?_deleteAll]
  cases hget : pendingById.get? id with
  | none => simp
  | some pending =>
    have hid := hfiled id pending hget
    by_cases hsubject : subject pending = key
    · have hmem : id ∈ (pendingFor ts subject pendingById key).map requestId :=
        List.mem_map.mpr ⟨pending, mem_pendingFor.mpr ⟨⟨id, hget⟩, hsubject⟩, hid⟩
      simp [hmem, hsubject, Option.filter]
    · have hmem : id ∉ (pendingFor ts subject pendingById key).map requestId := by
        intro hmem
        obtain ⟨other, hother, hotherId⟩ := List.mem_map.mp hmem
        obtain ⟨⟨otherKey, hotherGet⟩, hotherSubject⟩ := mem_pendingFor.mp hother
        have hotherKey := hfiled otherKey other hotherGet
        rw [← hotherKey, hotherId, hget] at hotherGet
        rw [Option.some.inj hotherGet] at hsubject
        exact hsubject hotherSubject
      simp [hmem, hsubject, Option.filter]

section

variable {before : Ledger RequestId Pending} (hvalid : Valid requestId subject before) (hsub : ∀
  id pending, pendingById.get? id = some pending → before.pendingById.get? id = some pending)

include hvalid hsub

theorem replacePending_step {request : Pending} {refreshes : Pending → Pending → Prop}
    (hsubject : subject request = key)
    (hfresh : requestId request ∉ before.requestIds)
    {result : PendingPairingRequestResult Pending}
    (hresult : replacePending requestId pendingById
      (pendingFor ts subject pendingById key) request = (after, result)) :
    Step requestId subject refreshes before
      ⟨after, if result.created then requestId request :: before.requestIds
        else before.requestIds⟩ := by
  cases hresult
  have hfiled : Filed requestId pendingById := fun id pending hget =>
    hvalid.filed id pending (hsub id pending hget)
  refine .file request hfresh ?_ rfl
  intro id pending hget
  rw [InsertionMap.get?_set, get?_deleteAll_pendingFor hfiled] at hget
  split at hget
  next hid => exact .inl ⟨hid, (Option.some.inj hget).symm⟩
  next =>
    obtain ⟨hget, hne⟩ := Option.filter_eq_some_iff.mp hget
    rw [hsubject]
    exact .inr ⟨hsub id pending hget, by simpa using hne⟩

theorem reconcilePendingPairingRequests_step {incoming : Incoming} {newId : RequestId}
    {canRefreshSingle : Pending → Incoming → Bool}
    {refreshSingle : Pending → Incoming → Pending}
    {buildReplacement : List Pending → Incoming → Pending}
    {refreshes : Pending → Pending → Prop}
    (hfresh : newId ∉ before.requestIds)
    (hrefreshId : ∀ pending, requestId (refreshSingle pending incoming) = requestId pending)
    (hrefreshSubject : ∀ pending, subject (refreshSingle pending incoming) = subject pending)
    (hbuildId : ∀ existing, requestId (buildReplacement existing incoming) = newId)
    (hbuildSubject : ∀ existing, subject (buildReplacement existing incoming) = key)
    (hrefreshes : ∀ pending, pendingFor ts subject pendingById key = [pending] →
      canRefreshSingle pending incoming = true → refreshes pending (refreshSingle pending incoming))
    {result : PendingPairingRequestResult Pending}
    (hresult : reconcilePendingPairingRequests requestId pendingById
      (pendingFor ts subject pendingById key) incoming canRefreshSingle
      refreshSingle buildReplacement = (after, result)) :
    Step requestId subject refreshes before
      ⟨after, if result.created then newId :: before.requestIds
        else before.requestIds⟩ := by
  have hreplace : replacePending requestId pendingById (pendingFor ts subject pendingById key)
      (buildReplacement (pendingFor ts subject pendingById key) incoming) = (after, result) →
      Step requestId subject refreshes before
        ⟨after, if result.created then newId :: before.requestIds
          else before.requestIds⟩ := by
    intro hreplaced
    have hid := hbuildId (pendingFor ts subject pendingById key)
    rw [← hid]
    exact replacePending_step hvalid hsub (hbuildSubject _) (hid ▸ hfresh) hreplaced
  unfold reconcilePendingPairingRequests at hresult
  split at hresult
  next single hsingle =>
    split at hresult
    next hcan =>
      cases hresult
      have hmem : single ∈ pendingFor ts subject pendingById key := by
        simp [hsingle]
      obtain ⟨⟨id, hget⟩, -⟩ := mem_pendingFor.mp hmem
      have hid := hvalid.filed id single (hsub id single hget)
      refine .refresh single (refreshSingle single incoming)
        (hid ▸ hsub id single hget) (hrefreshes single hsingle hcan)
        (hrefreshId single) (hrefreshSubject single) ?_ rfl
      intro other pending hother
      rw [InsertionMap.get?_set, hrefreshId] at hother
      split at hother
      next heq => exact .inl ⟨heq, (Option.some.inj hother).symm⟩
      next hne => exact .inr ⟨hne, hsub other pending hother⟩
    next => exact hreplace hresult
  next => exact hreplace hresult

end

end Reconciled

end LittleBaby.Pairing
