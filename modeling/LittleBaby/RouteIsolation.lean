import LittleBaby.RouteCaching

/-!
# Routes are isolated

A route depends on the bindings for its own channel and account only, whatever was cached.
-/

namespace LittleBaby.Routing

open JsString Casing MemoTable

variable {Cfg Ref : Type*} [DecidableEq Ref] {casing : Casing} {heap other : Heap Ref}

/-- The heaps differ at most in bindings that do not concern the scope. -/
structure Agree (casing : Casing) (heap other : Heap Ref) (scope : RouteScope) : Prop where
  bindings : ∀ ref, casing.plainBindings (some (heap.bindings ref)) scope.channel scope.accountId =
    casing.plainBindings (some (other.bindings ref)) scope.channel scope.accountId
  agents : heap.agents = other.agents
  session : heap.session = other.session

omit [DecidableEq Ref] in
theorem Agree.specifiedFor {scope : RouteScope} (hagree : Agree casing heap other scope)
    (config : LittleBabyConfig Ref) :
    casing.specifiedFor heap config scope = casing.specifiedFor other config scope := by
  have hmatch : casing.plainMatch (config.bindings.map heap.bindings) scope =
      casing.plainMatch (config.bindings.map other.bindings) scope := by
    unfold plainMatch
    cases config.bindings with
    | none => rfl
    | some ref => simp only [Option.map_some, hagree.bindings ref]
  unfold Casing.specifiedFor specifiedRoute
  rw [hmatch, hagree.agents, hagree.session]

def Holds (property : RouteScope → Prop) (fills : Option (ResolvedRouteCache Ref RouteScope)) :
    Prop :=
  ∀ cache, fills = some cache → ∀ entry ∈ cache.byKey, property entry.2

variable {property : RouteScope → Prop} {fills : Option (ResolvedRouteCache Ref RouteScope)}

theorem fillRoutes_holds (heap : Heap Ref) (hfills : Holds property fills)
    (config : LittleBabyConfig Ref)
    (shouldLogVerbose : Bool) {scope : RouteScope} (hscope : property scope) :
    property (fillRoutes heap config shouldLogVerbose scope fills).1 ∧
      Holds property (fillRoutes heap config shouldLogVerbose scope fills).2 := by
  have hcache : ∀ entry ∈ (resolveRouteCacheForConfig config fills).byKey, property entry.2 := by
    intro entry hentry
    unfold resolveRouteCacheForConfig at hentry
    split at hentry
    next cache =>
      split_ifs at hentry
      · exact hfills cache rfl entry hentry
      · cases hentry
    next => cases hentry
  unfold fillRoutes answer
  simp only
  split_ifs
  · split
    next source hlookup =>
      refine ⟨hcache _ (Entries.mem_of_lookup hlookup), ?_⟩
      intro cache heq
      cases heq
      exact hcache
    next =>
      refine ⟨hscope, ?_⟩
      intro cache heq entry hentry
      cases heq
      rcases MemoTable.mem_remember hentry with rfl | hold
      · exact hscope
      · exact hcache entry hold
  · exact ⟨hscope, hfills⟩

variable [DecidableEq Cfg]

theorem fillsAfter_holds (heap : Heap Ref) {calls : List (RouteCall Cfg Ref)}
    (hcalls : ∀ call ∈ calls, property (casing.normalizeInput call.input)) (cfg : Cfg) :
    Holds property (casing.fillsAfter heap calls cfg) := by
  induction calls using List.reverseRecOn generalizing cfg with
  | nil =>
    intro cache heq
    cases heq
  | append_singleton calls call ih =>
    have hbefore := ih fun earlier hmem => hcalls earlier (List.mem_append_left _ hmem)
    have hfills := (fillRoutes_holds heap (hbefore call.cfg) call.config call.shouldLogVerbose
      (hcalls call (by simp))).2
    simp only [fillsAfter, List.foldl_append, List.foldl_cons, List.foldl_nil, fillCall]
    by_cases hcfg : cfg = call.cfg
    · subst hcfg
      rw [Function.update_self]
      exact hfills
    · rw [Function.update_of_ne hcfg]
      exact hbefore cfg

/-- In a run on two heaps that agree on what concerns its calls, every call is answered the
same. -/
theorem routes_isolated (calls : List (RouteCall Cfg Ref))
    (hagree : ∀ call ∈ calls, Agree casing heap other (casing.normalizeInput call.input)) :
    ∀ before call after, calls = before ++ call :: after →
      (casing.resolveCall heap (casing.cachesAfter heap before) call).1 =
        (casing.resolveCall other (casing.cachesAfter other before) call).1 := by
  intro before call after hcalls
  subst hcalls
  have hcall := hagree call (by simp)
  have hfill : fillRoutes heap = fillRoutes other := by
    funext config shouldLogVerbose scope fills
    simp only [fillRoutes, hcall.session]
  have hsame : casing.fillsAfter heap before = casing.fillsAfter other before := by
    simp only [fillsAfter, fillCall, hfill]
  have hheld := fillsAfter_holds heap (fun earlier hmem =>
    hagree earlier (List.mem_append_left _ hmem)) call.cfg
  have hsource := (fillRoutes_holds heap hheld call.config call.shouldLogVerbose hcall).1
  have hspec := (resolveAgentRoute_spec casing heap call.config call.shouldLogVerbose call.input
    (cachesFaithful_after casing heap before call.cfg)).1
  have hother := (resolveAgentRoute_spec casing other call.config call.shouldLogVerbose call.input
    (cachesFaithful_after casing other before call.cfg)).1
  rw [← hfill, ← hsame] at hother
  exact hspec.trans ((hsource.specifiedFor call.config).trans hother.symm)

theorem routes_isolated_mail :
    let mail : Heap Unit := { supportHeap with
      bindings := fun ref => supportHeap.bindings ref ++
        [⟨none, some (js "mail"), ⟨some (js "mail"), none, none, none, none, none⟩⟩] }
    let ada := chatCall (some ⟨js "direct", js "ada"⟩)
    (asciiCasing.resolveCall supportHeap (asciiCasing.cachesAfter supportHeap [ada]) ada).1 =
      (asciiCasing.resolveCall mail (asciiCasing.cachesAfter mail [ada]) ada).1 := by
  intro mail ada
  apply routes_isolated [ada, ada] _ [ada] ada [] rfl
  intro call hcall
  have hada : call = ada := by simpa using hcall
  subst hada
  refine ⟨fun ref => ?_, rfl, rfl⟩
  cases ref
  rfl

end LittleBaby.Routing
