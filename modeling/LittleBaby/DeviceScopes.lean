import LittleBaby.InsertionOrder
import LittleBaby.JsString
import Mathlib.Data.List.Sort

/-!
# Roles and scopes of paired devices

Roles and scopes are trimmed strings collected in insertion order.  Having
`operator.write` implies reading, having `operator.admin` implies every operator
scope, and the scopes of another role carry its name before the first dot.
-/

namespace LittleBaby.Pairing

open JsString InsertionSet

def operatorRole : JsString := js "operator"
def operatorAdminScope : JsString := js "operator.admin"
def operatorReadScope : JsString := js "operator.read"
def operatorWriteScope : JsString := js "operator.write"
def operatorScopePrefix : JsString := js "operator."

def isOperatorScope (scope : JsString) : Bool := startsWith scope operatorScopePrefix

def trimmedSet (items : List JsString) : InsertionSet JsString :=
  (items.filterMap nonBlank).foldl add .empty

def normalizeRole (role : Option JsString) : Option JsString := role.bind nonBlank

/-- One argument of `mergeRoles`: a single role is a list of one. -/
def oneRole (role : Option JsString) : Option (List JsString) := role.map fun role => [role]

def mergeRoles (items : List (Option (List JsString))) : Option (List JsString) :=
  let roles := trimmedSet (items.flatMap fun item => item.getD [])
  if roles.elements = [] then none else some roles.elements

def mergeScopes (items : List (Option (List JsString))) : Option (List JsString) :=
  let scopes := trimmedSet (items.flatMap fun item => item.getD [])
  if scopes.elements = [] then
    if items.any Option.isSome then some [] else none
  else some scopes.elements

def sameStringSet (left right : List JsString) : Bool :=
  decide (left.length = right.length) && left.all fun value => decide (value ∈ right)

def addImpliedScopes (out : InsertionSet JsString) : InsertionSet JsString :=
  if out.has operatorAdminScope then
    (out.add operatorReadScope).add operatorWriteScope
  else if out.has operatorWriteScope then out.add operatorReadScope
  else out

def normalizeDeviceAuthScopes (scopes : Option (List JsString)) : List JsString :=
  (addImpliedScopes (trimmedSet (scopes.getD []))).elements.insertionSort
    fun left right => left ≤ right

def operatorScopeSatisfied (requestedScope : JsString) (granted : List JsString) : Bool :=
  if !isOperatorScope requestedScope then false
  else if operatorAdminScope ∈ granted then true
  else if requestedScope = operatorReadScope then
    decide (operatorReadScope ∈ granted) || decide (operatorWriteScope ∈ granted)
  else if requestedScope = operatorWriteScope then
    decide (operatorWriteScope ∈ granted)
  else decide (requestedScope ∈ granted)

variable (role : JsString)

def roleScopesAllow (requestedScopes allowedScopes : List JsString) : Bool :=
  let requested := (trimmedSet requestedScopes).elements
  let allowed := (trimmedSet allowedScopes).elements
  if requested = [] then true
  else if allowed = [] then false
  else if trim role ≠ operatorRole then
    requested.all fun scope =>
      startsWith scope (trim role ++ js ".") && decide (scope ∈ allowed)
  else requested.all fun scope => operatorScopeSatisfied scope allowed

def resolveMissingRequestedScope
    (requestedScopes allowedScopes : List JsString) : Option JsString :=
  requestedScopes.find? fun scope => !roleScopesAllow role [scope] allowedScopes

def resolveScopeOutsideRequestedRoles
    (requestedRoles requestedScopes : List JsString) : Option JsString :=
  requestedScopes.find? fun scope =>
    !requestedRoles.any fun role => roleScopesAllow role [scope] [scope]

structure DeviceBootstrapProfile where
  roles : List JsString
  scopes : List JsString

def bootstrapHandoffOperatorScopes : List JsString :=
  [js "operator.approvals", js "operator.read", js "operator.talk.secrets", js "operator.write"]

def resolveBootstrapProfileScopesForRole (scopes : List JsString) : List JsString :=
  if trim role = operatorRole then
    (normalizeDeviceAuthScopes (some scopes)).filter fun scope =>
      decide (scope ∈ bootstrapHandoffOperatorScopes)
  else []

variable {item : JsString}

variable {items : List JsString}

theorem mem_foldl_add {start : InsertionSet JsString} : item ∈ (items.foldl add start).elements ↔
      item ∈ start.elements ∨ item ∈ items := by
  induction items generalizing start with
  | nil => simp
  | cons first rest ih => simp [ih, or_assoc]

@[simp] theorem mem_trimmedSet :
    item ∈ (trimmedSet items).elements ↔ ∃ raw ∈ items, nonBlank raw = some item := by
  simp [trimmedSet, mem_foldl_add]

theorem nonBlank_of_mem_trimmedSet
    (hmem : item ∈ (trimmedSet items).elements) : nonBlank item = some item := by
  obtain ⟨raw, -, hraw⟩ := mem_trimmedSet.mp hmem
  exact nonBlank_of_nonBlank hraw

theorem mem_trimmedSet_of_trimmed (htrimmed : ∀ raw ∈ items, nonBlank raw = some raw) :
    item ∈ (trimmedSet items).elements ↔ item ∈ items := by
  rw [mem_trimmedSet]
  constructor
  · rintro ⟨raw, hraw, hitem⟩
    rw [htrimmed raw hraw] at hitem
    exact Option.some.inj hitem ▸ hraw
  · intro hitem
    exact ⟨item, hitem, htrimmed item hitem⟩

variable {items : List (Option (List JsString))}

theorem mem_trimmedSet_flatMap :
    item ∈ (trimmedSet (items.flatMap fun item => item.getD [])).elements ↔
      ∃ list ∈ items, ∃ raw ∈ list.getD [], nonBlank raw = some item := by
  rw [mem_trimmedSet]
  constructor
  · rintro ⟨raw, hraw, hitem⟩
    obtain ⟨list, hlist, hraw⟩ := List.mem_flatMap.mp hraw
    exact ⟨list, hlist, raw, hraw, hitem⟩
  · rintro ⟨list, hlist, raw, hraw, hitem⟩
    exact ⟨raw, List.mem_flatMap.mpr ⟨list, hlist, hraw⟩, hitem⟩

theorem mem_mergeRoles {role : JsString} : role ∈ (mergeRoles items).getD [] ↔
      ∃ list ∈ items, ∃ raw ∈ list.getD [], nonBlank raw = some role := by
  rw [← mem_trimmedSet_flatMap]
  unfold mergeRoles
  by_cases hnil : (trimmedSet (items.flatMap fun item => item.getD [])).elements = []
  · simp [hnil]
  · simp [hnil]

variable {scope : JsString}

theorem mem_mergeScopes : scope ∈ (mergeScopes items).getD [] ↔
      ∃ list ∈ items, ∃ raw ∈ list.getD [], nonBlank raw = some scope := by
  rw [← mem_trimmedSet_flatMap]
  unfold mergeScopes
  by_cases hnil : (trimmedSet (items.flatMap fun item => item.getD [])).elements = []
  · simp only [hnil, if_true]
    split <;> simp
  · simp [hnil]

theorem nodup_mergeRoles (items : List (Option (List JsString))) :
    ((mergeRoles items).getD []).Nodup := by
  unfold mergeRoles
  by_cases hnil : (trimmedSet (items.flatMap fun item => item.getD [])).elements = []
  · simp [hnil]
  · simp only [hnil, if_false, Option.getD_some]
    exact (trimmedSet _).nodup

variable {scopes : Option (List JsString)}

theorem mem_normalizeDeviceAuthScopes : scope ∈ normalizeDeviceAuthScopes scopes ↔
      scope ∈ (trimmedSet (scopes.getD [])).elements ∨
      operatorAdminScope ∈ (trimmedSet (scopes.getD [])).elements ∧
        (scope = operatorReadScope ∨ scope = operatorWriteScope) ∨
      operatorWriteScope ∈ (trimmedSet (scopes.getD [])).elements ∧ scope = operatorReadScope := by
  unfold normalizeDeviceAuthScopes addImpliedScopes
  rw [List.mem_insertionSort]
  by_cases hadmin : operatorAdminScope ∈ (trimmedSet (scopes.getD [])).elements
  · rw [if_pos (has_eq_true.mpr hadmin)]
    simp only [mem_add, hadmin, true_and]
    constructor
    · rintro ((hset | hread) | hwrite)
      · exact .inl hset
      · exact .inr (.inl (.inl hread))
      · exact .inr (.inl (.inr hwrite))
    · rintro (hset | (hread | hwrite) | ⟨-, hread⟩)
      · exact .inl (.inl hset)
      · exact .inl (.inr hread)
      · exact .inr hwrite
      · exact .inl (.inr hread)
  · rw [if_neg (by simpa using hadmin)]
    by_cases hwrite : operatorWriteScope ∈ (trimmedSet (scopes.getD [])).elements
    · rw [if_pos (has_eq_true.mpr hwrite)]
      simp [mem_add, hadmin, hwrite]
    · rw [if_neg (by simpa using hwrite)]
      simp [hadmin, hwrite]

theorem nonBlank_of_mem_normalizeDeviceAuthScopes
    (hmem : scope ∈ normalizeDeviceAuthScopes scopes) :
    nonBlank scope = some scope := by
  rcases mem_normalizeDeviceAuthScopes.mp hmem with
    hset | ⟨-, rfl | rfl⟩ | ⟨-, rfl⟩
  · exact nonBlank_of_mem_trimmedSet hset
  all_goals decide

theorem mem_trimmedSet_normalizeDeviceAuthScopes :
    scope ∈ (trimmedSet (normalizeDeviceAuthScopes scopes)).elements ↔
      scope ∈ normalizeDeviceAuthScopes scopes :=
  mem_trimmedSet_of_trimmed fun _ hraw => nonBlank_of_mem_normalizeDeviceAuthScopes hraw

theorem normalizeDeviceAuthScopes_mono {more : Option (List JsString)}
    (hsub : ∀ scope ∈ (trimmedSet (scopes.getD [])).elements,
      scope ∈ (trimmedSet (more.getD [])).elements)
    (hmem : scope ∈ normalizeDeviceAuthScopes scopes) :
    scope ∈ normalizeDeviceAuthScopes more := by
  rw [mem_normalizeDeviceAuthScopes] at hmem ⊢
  rcases hmem with hset | ⟨hadmin, hscope⟩ | ⟨hwrite, hscope⟩
  · exact .inl (hsub scope hset)
  · exact .inr (.inl ⟨hsub _ hadmin, hscope⟩)
  · exact .inr (.inr ⟨hsub _ hwrite, hscope⟩)

theorem operatorScopeSatisfied_of_mem
    {granted : List JsString} (hoperator : isOperatorScope scope = true)
    (hmem : scope ∈ granted) : operatorScopeSatisfied scope granted = true := by
  unfold operatorScopeSatisfied
  rw [hoperator]
  simp only [Bool.not_true, Bool.false_eq_true, if_false]
  split
  next => rfl
  next =>
    split
    next hread => simp [← hread, hmem]
    next =>
      split
      next hwrite => simp [← hwrite, hmem]
      next => simpa using hmem

theorem operatorScopeSatisfied_mono
    {granted more : List JsString} (hsub : ∀ scope ∈ granted, scope ∈ more)
    (hsatisfied : operatorScopeSatisfied scope granted = true) :
    operatorScopeSatisfied scope more = true := by
  have hadmin := hsub operatorAdminScope
  have hread := hsub operatorReadScope
  have hwrite := hsub operatorWriteScope
  have hscope := hsub scope
  unfold operatorScopeSatisfied at hsatisfied ⊢
  split at hsatisfied
  next => simp at hsatisfied
  next hoperator =>
    rw [if_neg hoperator]
    by_cases hmore : operatorAdminScope ∈ more
    · rw [if_pos hmore]
    · have hgranted : operatorAdminScope ∉ granted := fun h => hmore (hadmin h)
      rw [if_neg hgranted] at hsatisfied
      rw [if_neg hmore]
      split at hsatisfied
      next hisRead =>
        rw [if_pos hisRead]
        simp only [Bool.or_eq_true, decide_eq_true_eq] at hsatisfied ⊢
        exact hsatisfied.imp hread hwrite
      next hnotRead =>
        rw [if_neg hnotRead]
        split at hsatisfied
        next hisWrite =>
          rw [if_pos hisWrite]
          simp only [decide_eq_true_eq] at hsatisfied ⊢
          exact hwrite hsatisfied
        next hnotWrite =>
          rw [if_neg hnotWrite]
          simp only [decide_eq_true_eq] at hsatisfied ⊢
          exact hscope hsatisfied

theorem allowed_iff {requested allowed : List JsString} {holds : JsString → Bool}
    (hempty : allowed = [] → ∀ scope, holds scope = false) :
    (if requested = [] then true else if allowed = [] then false
      else requested.all holds) = true ↔ ∀ scope ∈ requested, holds scope = true := by
  by_cases hrequested : requested = []
  · simp [hrequested]
  · rw [if_neg hrequested]
    by_cases hallowed : allowed = []
    · obtain ⟨scope, hscope⟩ := List.exists_mem_of_ne_nil _ hrequested
      rw [if_pos hallowed, Bool.false_eq_true, false_iff, not_forall₂]
      exact ⟨scope, hscope, by simp [hempty hallowed]⟩
    · rw [if_neg hallowed, List.all_eq_true]

theorem roleScopesAllow_operator {requestedScopes allowedScopes : List JsString} :
    roleScopesAllow operatorRole requestedScopes allowedScopes = true ↔
      ∀ scope ∈ (trimmedSet requestedScopes).elements,
        operatorScopeSatisfied scope (trimmedSet allowedScopes).elements = true := by
  have hrole : trim operatorRole = operatorRole := by decide
  simp only [roleScopesAllow, hrole, ne_eq, not_true_eq_false, if_false]
  exact allowed_iff fun hallowed _ => by simp [hallowed, operatorScopeSatisfied]

theorem roleScopesAllow_other {role : JsString} (hrole : trim role ≠ operatorRole)
    {requestedScopes allowedScopes : List JsString} :
    roleScopesAllow role requestedScopes allowedScopes = true ↔
      ∀ scope ∈ (trimmedSet requestedScopes).elements,
        startsWith scope (trim role ++ js ".") = true ∧
          scope ∈ (trimmedSet allowedScopes).elements := by
  simp only [roleScopesAllow, ne_eq, hrole, not_false_eq_true, if_true]
  rw [allowed_iff fun hallowed _ => by simp [hallowed]]
  simp

end LittleBaby.Pairing
