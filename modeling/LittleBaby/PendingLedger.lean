import LittleBaby.InsertionOrder
import LittleBaby.LabelledMachine

/-!
# Ledgers of pending requests

Ids are never used twice, and each subject has one request at most.
-/

namespace PendingLedger

variable {RequestId Request Subject : Type*}

structure Ledger (RequestId Request : Type*) where
  pendingById : InsertionMap RequestId Request
  requestIds : List RequestId

def Filed (requestId : Request → RequestId) (pendingById : InsertionMap RequestId Request) : Prop :=
  ∀ id pending, pendingById.get? id = some pending → requestId pending = id

def OnePerSubject (subject : Request → Subject)
    (pendingById : InsertionMap RequestId Request) : Prop :=
  ∀ first second left right,
    pendingById.get? first = some left → pendingById.get? second = some right →
      subject left = subject right → first = second

structure Valid (requestId : Request → RequestId) (subject : Request → Subject)
    (ledger : Ledger RequestId Request) : Prop where
  filed : Filed requestId ledger.pendingById
  onePerSubject : OnePerSubject subject ledger.pendingById
  used : ∀ id pending, ledger.pendingById.get? id = some pending → id ∈ ledger.requestIds

theorem valid_empty (requestId : Request → RequestId) (subject : Request → Subject) :
    Valid requestId subject ⟨.empty, []⟩ := by
  constructor
  · intro id pending hget
    simp at hget
  · intro first second left right hget
    simp at hget
  · intro id pending hget
    simp at hget

/-- What may happen to a ledger in one step; `refreshes old new` is what a
refresh does to a request. -/
inductive Step (requestId : Request → RequestId) (subject : Request → Subject)
    (refreshes : Request → Request → Prop) (before after : Ledger RequestId Request) : Prop
  | release (hkept : ∀ id pending, after.pendingById.get? id = some pending →
        before.pendingById.get? id = some pending)
      (hids : after.requestIds = before.requestIds)
  | refresh (old new : Request) (hold : before.pendingById.get? (requestId old) = some old)
      (hrefreshes : refreshes old new)
      (hid : requestId new = requestId old)
      (hsubject : subject new = subject old)
      (hkept : ∀ id pending, after.pendingById.get? id = some pending →
        id = requestId old ∧ pending = new ∨
        id ≠ requestId old ∧ before.pendingById.get? id = some pending)
      (hids : after.requestIds = before.requestIds)
  | file (new : Request) (hfresh : requestId new ∉ before.requestIds)
      (hkept : ∀ id pending, after.pendingById.get? id = some pending →
        id = requestId new ∧ pending = new ∨
        before.pendingById.get? id = some pending ∧ subject pending ≠ subject new)
      (hids : after.requestIds = requestId new :: before.requestIds)

variable {requestId : Request → RequestId} {subject : Request → Subject}
  {refreshes : Request → Request → Prop}
  {before after : Ledger RequestId Request}

theorem Step.valid (hvalid : Valid requestId subject before)
    (hstep : Step requestId subject refreshes before after) :
    Valid requestId subject after := by
  cases hstep with
  | release hkept hids =>
    constructor
    · intro id pending hget
      exact hvalid.filed id pending (hkept id pending hget)
    · intro first second left right hleft hright hsame
      exact hvalid.onePerSubject first second left right
        (hkept first left hleft) (hkept second right hright) hsame
    · intro id pending hget
      rw [hids]
      exact hvalid.used id pending (hkept id pending hget)
  | refresh old new hold hrefreshes hid hsubject hkept hids =>
    constructor
    · intro id pending hget
      rcases hkept id pending hget with ⟨rfl, rfl⟩ | ⟨-, hbefore⟩
      · exact hid
      · exact hvalid.filed id pending hbefore
    · intro first second left right hleft hright hsame
      rcases hkept first left hleft with ⟨rfl, rfl⟩ | ⟨-, hbefore⟩
      · rcases hkept second right hright with ⟨rfl, rfl⟩ | ⟨-, hother⟩
        · rfl
        · exact hvalid.onePerSubject _ _ old right hold hother (hsubject.symm.trans hsame)
      · rcases hkept second right hright with ⟨rfl, rfl⟩ | ⟨-, hother⟩
        · exact hvalid.onePerSubject _ _ left old hbefore hold (hsame.trans hsubject)
        · exact hvalid.onePerSubject _ _ left right hbefore hother hsame
    · intro id pending hget
      rw [hids]
      rcases hkept id pending hget with ⟨rfl, rfl⟩ | ⟨-, hbefore⟩
      · exact hvalid.used _ old hold
      · exact hvalid.used id pending hbefore
  | file new hfresh hkept hids =>
    constructor
    · intro id pending hget
      rcases hkept id pending hget with ⟨rfl, rfl⟩ | ⟨hbefore, -⟩
      · rfl
      · exact hvalid.filed id pending hbefore
    · intro first second left right hleft hright hsame
      rcases hkept first left hleft with ⟨rfl, rfl⟩ | ⟨hbefore, hne⟩
      · rcases hkept second right hright with ⟨rfl, rfl⟩ | ⟨-, hne⟩
        · rfl
        · exact absurd hsame.symm hne
      · rcases hkept second right hright with ⟨rfl, rfl⟩ | ⟨hother, -⟩
        · exact absurd hsame hne
        · exact hvalid.onePerSubject _ _ left right hbefore hother hsame
    · intro id pending hget
      rw [hids]
      rcases hkept id pending hget with ⟨rfl, rfl⟩ | ⟨hbefore, -⟩
      · exact List.mem_cons_self
      · exact List.mem_cons_of_mem _ (hvalid.used id pending hbefore)

variable {id : RequestId}

section

variable (hstep : Step requestId subject refreshes before after) (hid : id ∈ before.requestIds)
include hstep hid

theorem Step.requestIds_subset : id ∈ after.requestIds := by
  cases hstep with
  | release _ hids => exact hids ▸ hid
  | refresh _ _ _ _ _ _ _ hids => exact hids ▸ hid
  | file _ _ _ hids => exact hids ▸ List.mem_cons_of_mem _ hid

theorem Step.origin {pending : Request} (hget : after.pendingById.get? id = some pending) :
    ∃ old, before.pendingById.get? id = some old ∧ (pending = old ∨ refreshes old pending) := by
  cases hstep with
  | release hkept _ => exact ⟨pending, hkept id pending hget, .inl rfl⟩
  | refresh old new hold hrefreshes _ _ hkept _ =>
    rcases hkept id pending hget with ⟨rfl, rfl⟩ | ⟨-, hbefore⟩
    · exact ⟨old, hold, .inr hrefreshes⟩
    · exact ⟨pending, hbefore, .inl rfl⟩
  | file new hfresh hkept _ =>
    rcases hkept id pending hget with ⟨rfl, -⟩ | ⟨hbefore, -⟩
    · exact absurd hid hfresh
    · exact ⟨pending, hbefore, .inl rfl⟩

end

variable {State Action : Type*} {step : State → Action → Option State}
  {ledger : State → Ledger RequestId Request}

theorem run_valid (hsteps : ∀ state action next, Valid requestId subject (ledger state) →
      step state action = some next → Step requestId subject refreshes (ledger state) (ledger next))
    {start final : State} {actions : List Action}
    (hstart : Valid requestId subject (ledger start))
    (hrun : LabelledMachine.run step start actions = some final) :
    Valid requestId subject (ledger final) :=
  LabelledMachine.run_invariant (fun state => Valid requestId subject (ledger state))
    (fun hvalid hstep => (hsteps _ _ _ hvalid hstep).valid hvalid) hstart hrun

theorem run_keeps {guard : State → Action → Prop}
    (hsteps : ∀ state action next, Valid requestId subject (ledger state) →
      guard state action → step state action = some next →
        Step requestId subject refreshes (ledger state) (ledger next))
    {keeps : Request → Request → Prop} (hrefl : ∀ request, keeps request request)
    (htrans : ∀ first second third, keeps first second → keeps second third → keeps first third)
    (hrefreshes : ∀ old new, refreshes old new → keeps old new)
    {start final : State} {actions : List Action}
    (hstart : Valid requestId subject (ledger start))
    (hguarded : LabelledMachine.Guarded step guard start actions)
    (hrun : LabelledMachine.run step start actions = some final)
    {id : RequestId} {first last : Request}
    (hfirst : (ledger start).pendingById.get? id = some first)
    (hlast : (ledger final).pendingById.get? id = some last) :
    keeps first last := by
  have hinvariant := LabelledMachine.run_guarded_invariant
    (fun state => Valid requestId subject (ledger state) ∧ id ∈ (ledger state).requestIds ∧
      ∀ pending, (ledger state).pendingById.get? id = some pending → keeps first pending)
    ?_ ⟨hstart, hstart.used id first hfirst, ?_⟩ hguarded hrun
  · exact hinvariant.2.2 last hlast
  · rintro state next action ⟨hvalid, hid, hkeeps⟩ hguard hstep
    have hledger := hsteps state action next hvalid hguard hstep
    refine ⟨hledger.valid hvalid, hledger.requestIds_subset hid, ?_⟩
    intro pending hget
    obtain ⟨old, hold, rfl | hrefresh⟩ := hledger.origin hid hget
    · exact hkeeps pending hold
    · exact htrans first old pending (hkeeps old hold) (hrefreshes old pending hrefresh)
  · intro pending hget
    rw [hfirst] at hget
    exact Option.some.inj hget ▸ hrefl first

end PendingLedger
