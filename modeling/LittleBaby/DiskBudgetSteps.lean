import LittleBaby.DiskBudget
import Mathlib.Algebra.Order.BigOperators.Group.List
import Mathlib.Data.Int.Order.Basic

/-!
# The steps of a disk-budget sweep

The size of the printed store is that of its entries, so it can be followed
entry by entry, and a removal takes the size of its file off the running total.
-/

namespace LittleBaby.DiskBudget

open JsString FoldUntil Entries

variable {Path Body : Type*}

namespace SweepEnv

variable {env : SweepEnv Path Body}

def entryBytes (env : SweepEnv Path Body) (stored : JsString × SessionEntry Body) : ℤ :=
  (env.propertyText stored.1 stored.2).length + 2

theorem entryBytes_pos (stored : JsString × SessionEntry Body) : 0 < env.entryBytes stored := by
  unfold entryBytes
  omega

theorem length_intercalate (stored : JsString × SessionEntry Body) (rest : Store Body) :
    (([0x2C, 0x0A] : List UInt8).intercalate ((stored :: rest).map fun entry =>
      env.propertyText entry.1 entry.2)).length + (2 : ℤ) =
        ((stored :: rest).map env.entryBytes).sum := by
  induction rest generalizing stored with
  | nil => simp [entryBytes]
  | cons next rest ih =>
    have hsum : ((stored :: next :: rest).map env.entryBytes).sum =
        env.entryBytes stored + ((next :: rest).map env.entryBytes).sum :=
      List.sum_cons
    rw [hsum, ← ih next]
    simp only [List.map_cons, List.intercalate_cons_cons, List.length_append, entryBytes]
    simp
    omega

theorem measureStoreBytes_eq (store : Store Body) :
    env.measureStoreBytes store = 2 + (store.map env.entryBytes).sum := by
  cases store with
  | nil => simp [measureStoreBytes, stringify]
  | cons stored rest =>
    rw [← length_intercalate, measureStoreBytes, stringify]
    · simp only [List.length_append, List.length_cons, List.length_nil]
      omega
    · simp

theorem measureStoreBytes_pos (store : Store Body) : 0 < env.measureStoreBytes store := by
  have hsum : 0 ≤ (store.map env.entryBytes).sum := by
    apply List.sum_nonneg
    intro bytes hbytes
    obtain ⟨stored, -, rfl⟩ := List.mem_map.mp hbytes
    exact (entryBytes_pos stored).le
  rw [measureStoreBytes_eq]
  omega

theorem measureStoreEntryChunkBytes_eq (key : JsString) (entry : SessionEntry Body) :
    env.measureStoreEntryChunkBytes key entry = (env.propertyText key entry).length := by
  have hsingle : env.stringify [(key, entry)] =
      [0x7B, 0x0A] ++ env.propertyText key entry ++ [0x0A, 0x7D] := by
    simp [stringify]
  have hfront : ([0x7B, 0x0A] : List UInt8) <+: env.stringify [(key, entry)] := by
    exact List.prefix_append _ _
  have hback : ([0x0A, 0x7D] : List UInt8) <:+ env.stringify [(key, entry)] := by
    exact List.suffix_append _ _
  simp only [measureStoreEntryChunkBytes]
  rw [if_pos ⟨hfront, hback⟩, hsingle]
  simp

variable {store : Store Body} {stored : JsString × SessionEntry Body}

theorem erase_perm (hkeys : (keys store).Nodup) (hstored : stored ∈ store) :
    store.Perm (stored :: erase stored.1 store) := by
  have herase : ∀ store : Store Body, erase stored.1 store =
      store.filter fun entry => !(stored.1 == entry.1) := fun _ => rfl
  induction store with
  | nil => cases hstored
  | cons first rest ih =>
    rw [keys, List.map_cons, List.nodup_cons] at hkeys
    rcases List.mem_cons.mp hstored with rfl | hrest
    · have hothers : rest.filter (fun entry => !(stored.1 == entry.1)) = rest := by
        apply List.filter_eq_self.mpr
        intro entry hentry
        have hne : stored.1 ≠ entry.1 := by
          intro heq
          exact hkeys.1 (heq ▸ List.mem_map_of_mem hentry)
        simpa using hne
      rw [herase, List.filter_cons_of_neg (by simp), hothers]
    · have hne : stored.1 ≠ first.1 := by
        intro heq
        exact hkeys.1 (heq ▸ List.mem_map_of_mem hrest)
      rw [herase, List.filter_cons_of_pos (by simpa using hne), ← herase]
      exact ((ih hkeys.2 hrest).cons first).trans (List.Perm.swap _ _ _)

theorem measureStoreBytes_erase {store : Store Body}
    (hkeys : (keys store).Nodup) {stored : JsString × SessionEntry Body}
    (hstored : stored ∈ store) :
    env.measureStoreBytes (erase stored.1 store) =
      env.measureStoreBytes store - env.entryBytes stored := by
  have hsum := ((erase_perm hkeys hstored).map env.entryBytes).sum_eq
  rw [List.map_cons, List.sum_cons] at hsum
  rw [measureStoreBytes_eq, measureStoreBytes_eq, hsum]
  omega

theorem deleteEntry_spec {sweep : Sweep Path Body}
    {stored : JsString × SessionEntry Body} (hstored : stored ∈ sweep.store)
    (hkeys : (keys sweep.store).Nodup)
    (hprojected : sweep.projectedStoreBytes = env.measureStoreBytes sweep.store) :
    (env.deleteEntry stored sweep).projectedStoreBytes =
        env.measureStoreBytes (erase stored.1 sweep.store) ∧
      (env.deleteEntry stored sweep).total = sweep.total - env.entryBytes stored := by
  have herase := @measureStoreBytes_erase _ _ env _ hkeys _ hstored
  have hpos := @measureStoreBytes_eq _ _ env (erase stored.1 sweep.store)
  have hnonneg : 0 ≤ ((erase stored.1 sweep.store).map env.entryBytes).sum := by
    apply List.sum_nonneg
    intro bytes hbytes
    obtain ⟨other, -, rfl⟩ := List.mem_map.mp hbytes
    exact (entryBytes_pos other).le
  have hchunk := @measureStoreEntryChunkBytes_eq _ _ env stored.1 stored.2
  have hbytes : env.entryBytes stored = (env.propertyText stored.1 stored.2).length + 2 := rfl
  have hprojectedAfter : (env.deleteEntry stored sweep).projectedStoreBytes =
      env.measureStoreBytes (erase stored.1 sweep.store) := by
    simp only [deleteEntry]
    omega
  refine ⟨hprojectedAfter, ?_⟩
  have htotal : (env.deleteEntry stored sweep).total = sweep.total +
      ((env.deleteEntry stored sweep).projectedStoreBytes - sweep.projectedStoreBytes) := rfl
  omega

section Removal

variable [DecidableEq Path] {sizes : Path → Option ℕ}

def diskAfter (env : SweepEnv Path Body) (path : Path) (disk : Disk Path) : Disk Path :=
  if env.rm path then Function.update disk path 0 else disk

theorem diskAfter_le (path other : Path) (disk : Disk Path) :
    env.diskAfter path disk other ≤ disk other := by
  unfold diskAfter
  split
  · by_cases hsame : other = path
    · simp [hsame]
    · simp [hsame]
  · exact le_refl _

theorem diskAfter_of_ne {path other : Path} (hne : other ≠ path)
    (disk : Disk Path) : env.diskAfter path disk other = disk other := by
  unfold diskAfter
  split
  · exact Function.update_of_ne hne _ _
  · rfl

theorem diskAfter_of_empty {path : Path} {disk : Disk Path}
    (hempty : disk path = 0) : env.diskAfter path disk = disk := by
  unfold diskAfter
  split
  · rw [← hempty, Function.update_eq_self]
  · rfl

variable (env) (sizes) in
theorem removeFile_spec (path : Path) (sweep : Sweep Path Body) :
    let after := countRemoval (env.removeFileForBudget sizes false path sweep)
    after.disk = env.diskAfter path sweep.disk ∧ after.store = sweep.store ∧
      after.sessionIdRefCounts = sweep.sessionIdRefCounts ∧
      after.projectedStoreBytes = sweep.projectedStoreBytes ∧
      after.total = sweep.total - sweep.disk path ∧
      after.removals = sweep.removals := by
  intro after
  have hafter : after = countRemoval (env.removeFileForBudget sizes false path sweep) := rfl
  simp only [removeFileForBudget, countRemoval, Bool.false_eq_true, if_false] at hafter
  unfold diskAfter
  by_cases hempty : sweep.disk path = 0
  · rw [if_pos hempty] at hafter
    rw [hafter]
    split <;> simp [hempty]
  · rw [if_neg hempty] at hafter
    rw [hafter]
    split <;> simp

variable (env) (sizes) in
theorem removeQueuedFile_spec (sweep : Sweep Path Body) (file : SessionsDirFile Path) :
    let after := env.removeQueuedFile sizes false sweep file
    after.disk = env.diskAfter file.canonicalPath sweep.disk ∧ after.store = sweep.store ∧
      after.sessionIdRefCounts = sweep.sessionIdRefCounts ∧
      after.projectedStoreBytes = sweep.projectedStoreBytes ∧
      after.total = sweep.total - sweep.disk file.canonicalPath ∧
      after.removals = sweep.removals ++ [.file file sweep.total] :=
  removeFile_spec env sizes file.canonicalPath
    { sweep with removals := sweep.removals ++ [.file file sweep.total] }

end Removal

/-- The store once the front part `done` of the order is worked off. -/
def stillStored (env : SweepEnv Path Body) (active : Option JsString)
    (store done : Store Body) : Store Body :=
  store.filter fun stored =>
    env.isActive active stored.1 || !decide (stored.1 ∈ keys done)

def sessionCount (store : Store Body) (sessionId : JsString) : ℕ :=
  store.countP fun stored => stored.2.session = some sessionId

structure Tracked (env : SweepEnv Path Body) (sweep : Sweep Path Body) : Prop where
  keys : (keys sweep.store).Nodup
  counts : ∀ sessionId, 0 < sessionCount sweep.store sessionId →
    sweep.sessionIdRefCounts sessionId = some (sessionCount sweep.store sessionId : ℤ)
  projected : sweep.projectedStoreBytes = env.measureStoreBytes sweep.store

theorem mem_erase {key : JsString} {other : JsString × SessionEntry Body} :
    other ∈ erase key store ↔ other ∈ store ∧ key ≠ other.1 := by
  unfold erase
  simp

theorem keys_erase_nodup (hkeys : (keys store).Nodup)
    (key : JsString) : (keys (erase key store)).Nodup :=
  (List.filter_sublist.map Prod.fst).nodup hkeys

theorem sessionCount_erase (hkeys : (keys store).Nodup)
    (hstored : stored ∈ store) (sessionId : JsString) :
    sessionCount store sessionId = sessionCount (erase stored.1 store) sessionId +
        if stored.2.session = some sessionId then 1 else 0 := by
  have hcount := (erase_perm hkeys hstored).countP_eq fun stored =>
    decide (stored.2.session = some sessionId)
  rw [List.countP_cons] at hcount
  simpa [sessionCount] using hcount

theorem sessionCount_pos {sessionId : JsString} : 0 < sessionCount store sessionId ↔
      ∃ stored ∈ store, stored.2.session = some sessionId := by
  simp [sessionCount, List.countP_pos_iff]

theorem buildSessionIdRefCounts_spec (store : Store Body) (sessionId : JsString)
    (hcount : 0 < sessionCount store sessionId) :
    buildSessionIdRefCounts store sessionId = some (sessionCount store sessionId : ℤ) := by
  have hfold : ∀ counts : JsString → Option ℤ, (store.foldl countSessionId counts) sessionId =
        if sessionCount store sessionId = 0 then counts sessionId
        else
          some ((counts sessionId).getD 0 + (sessionCount store sessionId : ℤ)) := by
    clear hcount
    induction store with
    | nil => simp [sessionCount]
    | cons stored rest ih =>
      intro counts
      rw [List.foldl_cons, ih]
      have hcons : sessionCount (stored :: rest) sessionId = sessionCount rest sessionId +
            if stored.2.session = some sessionId then 1 else 0 := by
        simp [sessionCount, List.countP_cons]
      rw [hcons]
      cases hsession : stored.2.session with
      | none => simp [countSessionId, hsession]
      | some other =>
        simp only [countSessionId, hsession]
        by_cases hsame : other = sessionId
        · subst hsame
          simp only [Function.update_self, Option.getD_some, if_true]
          split
          next hzero => simp [hzero]
          next hpos =>
            congr 1
            omega
        · have hne : sessionId ≠ other := fun heq => hsame heq.symm
          simp [Function.update_of_ne hne, hsame]
  have hbuilt := hfold fun _ => none
  rw [if_neg (by omega)] at hbuilt
  rw [Option.getD_none, zero_add] at hbuilt
  exact hbuilt

theorem resolve_session {entry : SessionEntry Body} {path : Path}
    (hpath : env.resolveSessionTranscriptPathForEntry entry = some path) :
    ∃ sessionId, entry.session = some sessionId := by
  unfold resolveSessionTranscriptPathForEntry at hpath
  cases hsession : entry.session with
  | none => simp [hsession] at hpath
  | some sessionId => exact ⟨sessionId, rfl⟩

section Entry

variable [DecidableEq Path] {sizes : Path → Option ℕ}

def diskWithout (env : SweepEnv Path Body) (file : Option Path) (disk : Disk Path) : Disk Path :=
  file.elim disk fun path => env.diskAfter path disk

def bytesOf (file : Option Path) (disk : Disk Path) : ℕ := file.elim 0 disk

structure Released (env : SweepEnv Path Body)
    (stored : JsString × SessionEntry Body) (before : Disk Path) (bytes : ℤ)
    (after : Sweep Path Body) (file : Option Path) : Prop where
  disk : after.disk = env.diskWithout file before
  total : after.total = bytes - bytesOf file before
  shared : file = none → ∀ path, env.resolveSessionTranscriptPathForEntry stored.2 = some path →
      ∃ other ∈ after.store, other.2.session = stored.2.session
  last : ∀ path, file = some path → env.resolveSessionTranscriptPathForEntry stored.2 = some path ∧
      ∀ other ∈ after.store, other.2.session ≠ stored.2.session

variable (env) (sizes) in
theorem releaseSession_spec (stored : JsString × SessionEntry Body) (sweep : Sweep Path Body)
    (hcounts : ∀ sessionId, stored.2.session = some sessionId → sweep.sessionIdRefCounts sessionId =
        some ((sessionCount sweep.store sessionId : ℤ) + 1))
    (hothers : ∀ sessionId, stored.2.session ≠ some sessionId →
      0 < sessionCount sweep.store sessionId →
      sweep.sessionIdRefCounts sessionId = some (sessionCount sweep.store sessionId : ℤ))
    {after : Sweep Path Body}
    (hafter : env.releaseSession sizes false stored.2 sweep = after) :
    after.store = sweep.store ∧ after.projectedStoreBytes = sweep.projectedStoreBytes ∧
      after.removals = sweep.removals ∧
      (∀ sessionId, 0 < sessionCount sweep.store sessionId → after.sessionIdRefCounts sessionId =
          some (sessionCount sweep.store sessionId : ℤ)) ∧
      ∃ file, Released env stored sweep.disk sweep.total after file := by
  unfold releaseSession at hafter
  cases hsession : stored.2.session with
  | none =>
    rw [hsession] at hafter
    subst hafter
    refine ⟨rfl, rfl, rfl, fun sessionId => hothers sessionId (by simp [hsession]),
      none, rfl, by simp [bytesOf], ?_, by simp⟩
    intro _ path hpath
    obtain ⟨sessionId, hsome⟩ := resolve_session hpath
    simp [hsession] at hsome
  | some sessionId =>
    rw [hsession] at hafter
    simp only [hcounts sessionId hsession, Option.getD_some, add_sub_cancel_right] at hafter
    by_cases hshared : (sessionCount sweep.store sessionId : ℤ) > 0
    · rw [if_pos hshared] at hafter
      subst hafter
      refine ⟨rfl, rfl, rfl, ?_, none, rfl, by simp [bytesOf], ?_, by simp⟩
      · intro other hother
        by_cases hsame : other = sessionId
        · subst hsame
          simp
        · have hkept := hothers other (by simp [hsession, Ne.symm hsame]) hother
          simpa [Function.update_of_ne hsame] using hkept
      · intro _ path _
        rw [hsession]
        have hpos : 0 < sessionCount sweep.store sessionId := by omega
        exact sessionCount_pos.mp hpos
    · rw [if_neg hshared] at hafter
      have hnone : ∀ other ∈ sweep.store, other.2.session ≠ some sessionId := by
        intro other hother hsame
        have hpos := sessionCount_pos.mpr ⟨other, hother, hsame⟩
        omega
      have hcountsAfter : ∀ other, 0 < sessionCount sweep.store other →
          Function.update sweep.sessionIdRefCounts sessionId none other =
            some (sessionCount sweep.store other : ℤ) := by
        intro other hother
        have hne : other ≠ sessionId := by
          rintro rfl
          omega
        rw [Function.update_of_ne hne]
        exact hothers other (by simp [hsession, Ne.symm hne]) hother
      cases hpath : env.resolveSessionTranscriptPathForEntry stored.2 with
      | none =>
        rw [hpath] at hafter
        subst hafter
        refine ⟨rfl, rfl, rfl, hcountsAfter, none, rfl, by simp [bytesOf], ?_, by simp⟩
        intro _ path hsome
        simp [hpath] at hsome
      | some path =>
        rw [hpath] at hafter
        obtain ⟨hdisk, hstore, hrefCounts, hprojected, htotal, hremovals⟩ :=
          removeFile_spec env sizes path { sweep with
              sessionIdRefCounts := Function.update sweep.sessionIdRefCounts sessionId none }
        simp only at hafter
        rw [hafter] at hdisk hstore hrefCounts hprojected htotal hremovals
        refine ⟨hstore, hprojected, hremovals, ?_, some path, hdisk, htotal, by simp, ?_⟩
        · intro other hother
          rw [hrefCounts]
          exact hcountsAfter other hother
        · rintro _ ⟨⟩
          refine ⟨hpath, ?_⟩
          rw [hstore, hsession]
          exact hnone

theorem removeEntry_spec {sweep : Sweep Path Body} {active : Option JsString}
    (htracked : Tracked env sweep)
    (hstored : stored ∈ sweep.store)
    (hactive : env.isActive active stored.1 = false) {after : Sweep Path Body}
    (hafter : env.removeEntry sizes false active sweep stored = after) :
    after.store = erase stored.1 sweep.store ∧ Tracked env after ∧
      after.removals = sweep.removals ++ [.entry stored sweep.total] ∧
      ∃ file, Released env stored sweep.disk (sweep.total - env.entryBytes stored) after file := by
  rw [removeEntry, hactive, if_neg (by simp)] at hafter
  have hdeleted := deleteEntry_spec hstored htracked.keys htracked.projected
  have hstoreDeleted : (env.deleteEntry stored sweep).store = erase stored.1 sweep.store := rfl
  have hcount := sessionCount_erase htracked.keys hstored
  obtain ⟨hstore, hprojected, hremovals, hcounts, file, hreleased⟩ :=
    releaseSession_spec env sizes stored (env.deleteEntry stored sweep) (by
        intro sessionId hsession
        have hsum := hcount sessionId
        rw [if_pos hsession] at hsum
        have hbefore := htracked.counts sessionId (by omega)
        rw [hsum] at hbefore
        exact_mod_cast hbefore)
      (by
        intro sessionId hsession hpos
        have hsum := hcount sessionId
        rw [if_neg hsession, add_zero] at hsum
        rw [hstoreDeleted] at hpos ⊢
        have hbefore := htracked.counts sessionId (by omega)
        rw [hsum] at hbefore
        exact hbefore)
      hafter
  refine ⟨hstore, ?_, hremovals, file, ?_⟩
  · constructor
    · rw [hstore]
      exact keys_erase_nodup htracked.keys stored.1
    · rw [hstore]
      exact hcounts
    · rw [hprojected, hstore, hdeleted.1]
      rfl
  · constructor
    · exact hreleased.disk
    · rw [hreleased.total, hdeleted.2]
      rfl
    · exact hreleased.shared
    · exact hreleased.last

end Entry

end SweepEnv

end LittleBaby.DiskBudget
