import LittleBaby.DiskBudgetSteps

/-!
# What a disk-budget sweep spares

A sweep keeps the transcripts of the entries it leaves, and its numbers are right,
for every budget exactly when an archive is no transcript in use, a transcript
belongs to one session id, and it lies in the listed directory.
-/

namespace LittleBaby.DiskBudget

open JsString FoldUntil SessionsDirFile Entries

variable {Path Body : Type*}

def Removal.total : Removal Path Body → ℤ
  | .file _ total => total
  | .entry _ total => total

def Removal.storedEntry : Removal Path Body → Option (JsString × SessionEntry Body)
  | .file _ _ => none
  | .entry stored _ => some stored

def Sweep.removed (sweep : Sweep Path Body) : Store Body :=
  sweep.removals.filterMap Removal.storedEntry

namespace SweepEnv

variable [DecidableEq Path]

section Statement

variable (env : SweepEnv Path Body)

def Explains (path : Path) : Removal Path Body → Prop
  | .file file _ => file.canonicalPath = path
  | .entry stored _ =>
    env.resolveSessionTranscriptPathForEntry stored.2 = some path

def remainingBytes (disk : Disk Path) (store : Store Body) : ℤ :=
  (((env.files.map canonicalPath).filter fun path =>
    path ≠ env.storePath).map fun path => (disk path : ℤ)).sum + env.measureStoreBytes store

def realRun (params : SweepParams) (disk : Disk Path) (store : Store Body) :
    Option SessionDiskBudgetSweepResult × Sweep Path Body :=
  env.enforceSessionDiskBudget { params with dryRun := false } disk store

def dryRun (params : SweepParams) (disk : Disk Path) (store : Store Body) :
    Option SessionDiskBudgetSweepResult × Sweep Path Body :=
  env.enforceSessionDiskBudget { params with dryRun := true } disk store

structure Sound (params : SweepParams) (disk : Disk Path) (store : Store Body) :
    Prop where
  transcripts : ∀ stored ∈ (env.realRun params disk store).2.store, ∀ path,
    env.resolveSessionTranscriptPathForEntry stored.2 = some path →
      (env.realRun params disk store).2.disk path = disk path
  active : ∀ stored ∈ store, env.isActive params.activeSessionKey stored.1 = true →
    stored ∈ (env.realRun params disk store).2.store
  watermark : ∀ highWaterBytes, params.highWaterBytes = some highWaterBytes →
    ∀ removal ∈ (env.realRun params disk store).2.removals, (highWaterBytes : ℤ) < removal.total
  explainedFiles : ∀ path, (env.realRun params disk store).2.disk path ≠ disk path →
      ∃ removal ∈ (env.realRun params disk store).2.removals, env.Explains path removal
  explainedEntries : ∀ stored ∈ store, stored ∉ (env.realRun params disk store).2.store →
      stored ∈ (env.realRun params disk store).2.removed
  inOrder : (env.realRun params disk store).2.removed.Pairwise fun first second =>
    getEntryUpdatedAt first.2 ≤ getEntryUpdatedAt second.2
  oldest : ∀ removed ∈ (env.realRun params disk store).2.removed,
    ∀ stored ∈ (env.realRun params disk store).2.store,
      env.isActive params.activeSessionKey stored.1 = false →
        getEntryUpdatedAt removed.2 ≤ getEntryUpdatedAt stored.2
  total : (∀ path, env.rm path = true) → ∀ result,
    (env.realRun params disk store).1 = some result → result.totalBytesAfter =
        env.remainingBytes (env.realRun params disk store).2.disk
          (env.realRun params disk store).2.store
  dry : (∀ path, env.rm path = true) →
    (env.dryRun params disk store).1 = (env.realRun params disk store).1

def IsLast (stored : JsString × SessionEntry Body) (rest : Store Body) : Prop :=
  ∀ other ∈ rest, other.2.session ≠ stored.2.session

structure Counted (disk : Disk Path) (store : Store Body) : Prop where
  storeFile : ∀ file ∈ env.files, disk file.canonicalPath ≠ 0 →
    env.isRemovable store file = true → file.canonicalPath ≠ env.storePath
  listed : ∀ done stored rest path, sweepOrder store = done ++ stored :: rest → IsLast stored rest →
    env.resolveSessionTranscriptPathForEntry stored.2 = some path →
    disk path ≠ 0 → path ∈ env.files.map canonicalPath ∧ path ≠ env.storePath

structure Separate (disk : Disk Path) (store : Store Body) : Prop
    extends Counted env disk store where
  archives : ∀ file ∈ env.files, disk file.canonicalPath ≠ 0 →
    isSessionArchiveArtifactName file.name = true → ∀ stored ∈ store,
      env.resolveSessionTranscriptPathForEntry stored.2 ≠ some file.canonicalPath
  shared : ∀ done stored rest path, sweepOrder store = done ++ stored :: rest → IsLast stored rest →
    env.resolveSessionTranscriptPathForEntry stored.2 = some path →
    disk path ≠ 0 → (∀ other ∈ rest, env.resolveSessionTranscriptPathForEntry other.2 ≠ some path) ∧
      ∀ other ∈ done, env.resolveSessionTranscriptPathForEntry other.2 = some path →
        other.2.session ≠ stored.2.session →
        env.isActive (some other.1) other.1 = true →
          ∃ member ∈ store, member.2.session = stored.2.session ∧
            env.isActive (some other.1) member.1 = true

end Statement

section Order

omit [DecidableEq Path]

variable {env : SweepEnv Path Body}

theorem sweepOrder_perm (store : Store Body) : (sweepOrder store).Perm store :=
  List.perm_insertionSort _ _

theorem sweepOrder_pairwise (store : Store Body) : (sweepOrder store).Pairwise fun first second =>
      getEntryUpdatedAt first.2 ≤ getEntryUpdatedAt second.2 := by
  have htotal : Std.Total fun first second : JsString × SessionEntry Body =>
      getEntryUpdatedAt first.2 ≤ getEntryUpdatedAt second.2 :=
    ⟨fun first second => le_total _ _⟩
  have htrans : IsTrans (JsString × SessionEntry Body) fun first second =>
      getEntryUpdatedAt first.2 ≤ getEntryUpdatedAt second.2 :=
    ⟨fun _ _ _ => le_trans⟩
  exact List.pairwise_insertionSort _ store

theorem sweepOrder_keys_nodup {store : Store Body} (hkeys : (keys store).Nodup) :
    (keys (sweepOrder store)).Nodup :=
  ((sweepOrder_perm store).map Prod.fst).nodup_iff.mpr hkeys

theorem isActive_iff {active : Option JsString} {key : JsString}
    (hactive : env.isActive active key = true) (other : JsString) :
    env.isActive active other = env.isActive (some key) other := by
  unfold isActive at hactive ⊢
  rw [Option.bind_some]
  cases hnormal : active.bind env.normalizeOptionalLowercaseString with
  | none => simp [hnormal] at hactive
  | some normal =>
    simp only [hnormal, Bool.and_eq_true, decide_eq_true_eq] at hactive
    cases hkey : env.normalizeOptionalLowercaseString key with
    | none =>
      rw [hkey, Option.getD_none] at hactive
      exact absurd hactive.2.symm hactive.1
    | some keyNormal =>
      rw [hkey, Option.getD_some] at hactive
      rw [hactive.2]

end Order

/-! ## The second loop -/

section Entries

variable {env : SweepEnv Path Body} {sizes : Path → Option ℕ}
  {active : Option JsString} {store : Store Body}

omit [DecidableEq Path] in
theorem mem_keys_concat {key : JsString} {done : Store Body}
    {stored : JsString × SessionEntry Body} :
    key ∈ keys (done ++ [stored]) ↔ key ∈ keys done ∨ key = stored.1 := by
  simp [keys]

structure Worked (env : SweepEnv Path Body) (active : Option JsString)
    (store done : Store Body) (sweep : Sweep Path Body) : Prop where
  tracked : Tracked env sweep
  store_eq : sweep.store = stillStored env active store done
  removed_eq : sweep.removed = done.filter fun stored => !env.isActive active stored.1

omit [DecidableEq Path] in
theorem mem_stillStored {done : Store Body} {stored : JsString × SessionEntry Body} :
    stored ∈ stillStored env active store done ↔ stored ∈ store ∧
      (env.isActive active stored.1 = true ∨ stored.1 ∉ keys done) := by
  simp [stillStored]

omit [DecidableEq Path] in
theorem stillStored_concat_active {done : Store Body} {stored : JsString × SessionEntry Body}
    (hactive : env.isActive active stored.1 = true) :
    stillStored env active store (done ++ [stored]) = stillStored env active store done := by
  apply List.filter_congr
  intro other _
  by_cases hsame : other.1 = stored.1
  · rw [hsame, hactive]
    rfl
  · simp only [mem_keys_concat, hsame, or_false]

omit [DecidableEq Path] in
theorem stillStored_concat {done : Store Body} {stored : JsString × SessionEntry Body}
    (hactive : env.isActive active stored.1 = false) :
    erase stored.1 (stillStored env active store done) =
      stillStored env active store (done ++ [stored]) := by
  unfold stillStored erase
  rw [List.filter_filter]
  apply List.filter_congr
  intro other _
  by_cases hsame : other.1 = stored.1
  · simp [hsame, hactive]
  · have hne : (stored.1 == other.1) = false := beq_eq_false_iff_ne.mpr fun heq => hsame heq.symm
    simp only [mem_keys_concat, hsame, or_false, hne, Bool.not_false, Bool.true_and]

omit [DecidableEq Path] in
theorem mem_of_order {done rest : Store Body}
    {stored : JsString × SessionEntry Body} (hkeys : (keys store).Nodup)
    (horder : sweepOrder store = done ++ stored :: rest) :
    stored ∈ stillStored env active store done := by
  have hnodup := sweepOrder_keys_nodup hkeys
  rw [horder, keys, List.map_append, List.map_cons] at hnodup
  have hstored : stored ∈ store := by
    rw [← (sweepOrder_perm store).mem_iff, horder]
    simp
  refine mem_stillStored.mpr ⟨hstored, .inr ?_⟩
  intro hdone
  exact List.disjoint_of_nodup_append hnodup hdone List.mem_cons_self

variable (sizes) in
theorem Worked.round {done rest : Store Body} {sweep : Sweep Path Body}
    {stored : JsString × SessionEntry Body} (hkeys : (keys store).Nodup)
    (horder : sweepOrder store = done ++ stored :: rest)
    (hworked : Worked env active store done sweep) :
    Worked env active store (done ++ [stored]) (env.removeEntry sizes false active sweep stored) ∧
      (env.isActive active stored.1 = true ∧
          env.removeEntry sizes false active sweep stored = sweep ∨
        env.isActive active stored.1 = false ∧
          (env.removeEntry sizes false active sweep stored).store = erase stored.1 sweep.store ∧
          (env.removeEntry sizes false active sweep stored).removals =
            sweep.removals ++ [.entry stored sweep.total] ∧
          ∃ file, Released env stored sweep.disk (sweep.total - env.entryBytes stored)
            (env.removeEntry sizes false active sweep stored) file) := by
  cases hactive : env.isActive active stored.1 with
  | true =>
    have hsame : env.removeEntry sizes false active sweep stored = sweep := by
      rw [removeEntry, hactive, if_pos rfl]
    rw [hsame]
    refine ⟨⟨hworked.tracked, ?_, ?_⟩, .inl ⟨rfl, rfl⟩⟩
    · rw [stillStored_concat_active hactive]
      exact hworked.store_eq
    · rw [hworked.removed_eq, List.filter_append]
      simp [hactive]
  | false =>
    have hstored : stored ∈ sweep.store := by
      rw [hworked.store_eq]
      exact mem_of_order hkeys horder
    obtain ⟨hstore, htracked, hremovals, hreleased⟩ :=
      removeEntry_spec hworked.tracked hstored hactive rfl
    refine ⟨⟨htracked, ?_, ?_⟩, .inr ⟨rfl, hstore, hremovals, hreleased⟩⟩
    · rw [hstore, hworked.store_eq, stillStored_concat hactive]
    · rw [Sweep.removed, hremovals, List.filterMap_append, ← Sweep.removed,
        hworked.removed_eq, List.filter_append]
      simp [Removal.storedEntry, hactive]

omit [DecidableEq Path] in
theorem Worked.isLast {done rest : Store Body} {sweep : Sweep Path Body}
    {stored : JsString × SessionEntry Body} (hkeys : (keys store).Nodup)
    (horder : sweepOrder store = done ++ stored :: rest)
    (hworked : Worked env active store (done ++ [stored]) sweep)
    (hlast : ∀ other ∈ sweep.store, other.2.session ≠ stored.2.session) :
    IsLast stored rest ∧ ∀ other ∈ store, other.2.session = stored.2.session →
        env.isActive active other.1 = false := by
  constructor
  · intro other hother
    apply hlast other
    rw [hworked.store_eq]
    obtain ⟨before, after, hrest⟩ := List.append_of_mem hother
    have hlater : sweepOrder store = (done ++ stored :: before) ++ other :: after := by
      rw [horder, hrest]
      simp
    have hmem := mem_stillStored.mp (@mem_of_order _ _ env active _ _ _ _ hkeys hlater)
    refine mem_stillStored.mpr ⟨hmem.1, hmem.2.imp id fun hnot => ?_⟩
    intro hdone
    apply hnot
    rw [keys, List.map_append] at hdone ⊢
    rcases List.mem_append.mp hdone with hdone | hdone
    · exact List.mem_append_left _ hdone
    · apply List.mem_append_right
      rw [List.map_singleton, List.mem_singleton] at hdone
      rw [hdone]
      exact List.mem_cons_self
  · intro other hother hsession
    by_contra hactive
    apply hlast other _ hsession
    rw [hworked.store_eq]
    exact mem_stillStored.mpr ⟨hother, .inl (by simpa using hactive)⟩

omit [DecidableEq Path] in
theorem Worked.not_shared {done rest : Store Body} {sweep : Sweep Path Body}
    {stored : JsString × SessionEntry Body}
    (horder : sweepOrder store = done ++ stored :: rest)
    (hworked : Worked env active store (done ++ [stored]) sweep)
    (hlast : IsLast stored rest)
    (hinactive : ∀ other ∈ store, other.2.session = stored.2.session →
      env.isActive active other.1 = false) :
    ∀ other ∈ sweep.store, other.2.session ≠ stored.2.session := by
  intro other hother hsession
  rw [hworked.store_eq] at hother
  obtain ⟨hstore, hkept⟩ := mem_stillStored.mp hother
  rw [hinactive other hstore hsession] at hkept
  have hnew : other.1 ∉ keys (done ++ [stored]) := by simpa using hkept
  rw [← (sweepOrder_perm store).mem_iff, horder] at hstore
  rcases List.mem_append.mp hstore with hdone | hrest
  · exact hnew (mem_keys_concat.mpr (.inl (List.mem_map_of_mem hdone)))
  · rcases List.mem_cons.mp hrest with rfl | hrest
    · exact hnew (mem_keys_concat.mpr (.inr rfl))
    · exact hlast other hrest hsession

theorem Worked.queued {sweep : Sweep Path Body}
    (hworked : Worked env active store [] sweep) (file : SessionsDirFile Path) :
    Worked env active store [] (env.removeQueuedFile sizes false sweep file) := by
  obtain ⟨-, hstore, hcounts, hprojected, -, hremovals⟩ :=
    removeQueuedFile_spec env sizes sweep file
  constructor
  · constructor
    · rw [hstore]
      exact hworked.tracked.keys
    · rw [hstore, hcounts]
      exact hworked.tracked.counts
    · rw [hstore, hprojected]
      exact hworked.tracked.projected
  · rw [hstore]
    exact hworked.store_eq
  · rw [Sweep.removed, hremovals, List.filterMap_append, ← Sweep.removed, hworked.removed_eq]
    rfl

theorem start_worked (disk : Disk Path) (hkeys : (keys store).Nodup) :
    Worked env active store [] (env.start disk store) where
  tracked :=
    { keys := hkeys
      counts := buildSessionIdRefCounts_spec store
      projected := rfl }
  store_eq := by
    have hall : stillStored env active store [] = store :=
      List.filter_eq_self.mpr fun stored _ => by simp [keys]
    exact hall.symm
  removed_eq := rfl

structure Orderly (env : SweepEnv Path Body) (highWaterBytes : ℕ)
    (disk : Disk Path) (sweep : Sweep Path Body) : Prop where
  shrinks : ∀ path, sweep.disk path ≤ disk path
  above : ∀ removal ∈ sweep.removals, (highWaterBytes : ℤ) < removal.total
  explained : ∀ path, sweep.disk path ≠ disk path →
    ∃ removal ∈ sweep.removals, env.Explains path removal

variable {highWaterBytes : ℕ} {disk : Disk Path} {sweep : Sweep Path Body}

section

variable (horderly : Orderly env highWaterBytes disk sweep)
include horderly

theorem Orderly.concat {after : Sweep Path Body} {removal : Removal Path Body} {file : Option Path}
    (htotal : removal.total = sweep.total)
    (hruns : atHighWater highWaterBytes sweep = false)
    (hremovals : after.removals = sweep.removals ++ [removal])
    (hdisk : after.disk = env.diskWithout file sweep.disk)
    (hfile : ∀ path, file = some path → env.Explains path removal) :
    Orderly env highWaterBytes disk after where
  shrinks := by
    intro path
    rw [hdisk]
    cases file with
    | none => exact horderly.shrinks path
    | some other =>
      exact (diskAfter_le other path sweep.disk).trans (horderly.shrinks path)
  above := by
    intro other hother
    rw [hremovals, List.mem_append, List.mem_singleton] at hother
    rcases hother with hother | rfl
    · exact horderly.above other hother
    · rw [htotal]
      simpa [atHighWater] using hruns
  explained := by
    intro path hchanged
    rw [hremovals]
    rw [hdisk] at hchanged
    cases hfileEq : file with
    | none =>
      rw [hfileEq] at hchanged
      obtain ⟨other, hother, hexplains⟩ := horderly.explained path hchanged
      exact ⟨other, List.mem_append_left _ hother, hexplains⟩
    | some other =>
      by_cases hsame : path = other
      · subst hsame
        exact ⟨removal, by simp, hfile path hfileEq⟩
      · rw [hfileEq, diskWithout, Option.elim_some, diskAfter_of_ne hsame] at hchanged
        obtain ⟨earlier, hearlier, hexplains⟩ := horderly.explained path hchanged
        exact ⟨earlier, List.mem_append_left _ hearlier, hexplains⟩

theorem Orderly.queued (hruns : atHighWater highWaterBytes sweep = false)
    (file : SessionsDirFile Path) :
    Orderly env highWaterBytes disk (env.removeQueuedFile sizes false sweep file) := by
  obtain ⟨hdisk, -, -, -, -, hremovals⟩ := removeQueuedFile_spec env sizes sweep file
  have hwithout : (env.removeQueuedFile sizes false sweep file).disk =
      env.diskWithout (some file.canonicalPath) sweep.disk := hdisk
  have hfile : ∀ path, some file.canonicalPath = some path →
      env.Explains path (.file file sweep.total) :=
    fun path hpath => Option.some.inj hpath
  exact horderly.concat rfl hruns hremovals hwithout hfile

theorem Orderly.released {stored : JsString × SessionEntry Body}
    {after : Sweep Path Body} {bytes : ℤ} {file : Option Path}
    (hruns : atHighWater highWaterBytes sweep = false)
    (hremovals : after.removals = sweep.removals ++ [.entry stored sweep.total])
    (hreleased : Released env stored sweep.disk bytes after file) :
    Orderly env highWaterBytes disk after :=
  horderly.concat rfl hruns hremovals hreleased.disk fun path hpath => (hreleased.last path hpath).1

end

theorem start_orderly : Orderly env highWaterBytes disk (env.start disk store) where
  shrinks _ := le_refl _
  above := by simp [start]
  explained path hchanged := absurd rfl hchanged

/-! ## The running total -/

def deficit (env : SweepEnv Path Body) (sweep : Sweep Path Body) : ℤ :=
  env.remainingBytes sweep.disk sweep.store - sweep.total

def uncounted (env : SweepEnv Path Body) (file : Option Path) (disk : Disk Path) :
    ℤ :=
  file.elim 0 fun path =>
    if path ∈ env.files.map canonicalPath ∧ path ≠ env.storePath then 0
    else disk path

theorem uncounted_nonneg (file : Option Path) (disk : Disk Path) : 0 ≤ env.uncounted file disk := by
  cases file with
  | none => exact le_refl _
  | some path =>
    rw [uncounted, Option.elim_some]
    split <;> omega

theorem sum_update {paths : List Path} (hnodup : paths.Nodup) (path : Path) (disk : Disk Path) :
    (paths.map fun other => (Function.update disk path 0 other : ℤ)).sum =
      (paths.map fun other => (disk other : ℤ)).sum -
        if path ∈ paths then (disk path : ℤ) else 0 := by
  induction paths with
  | nil => simp
  | cons first rest ih =>
    rw [List.nodup_cons] at hnodup
    rw [List.map_cons, List.map_cons, List.sum_cons, List.sum_cons, ih hnodup.2]
    by_cases hfirst : first = path
    · subst hfirst
      simp [hnodup.1]
    · have hne : path ≠ first := fun heq => hfirst heq.symm
      simp only [Function.update_of_ne hfirst, List.mem_cons, hne, false_or]
      omega

theorem remainingBytes_diskWithout (hrm : ∀ path, env.rm path = true)
    (hpaths : (env.files.map canonicalPath).Nodup)
    (file : Option Path) (store : Store Body) :
    env.remainingBytes (env.diskWithout file disk) store =
      env.remainingBytes disk store - bytesOf file disk + env.uncounted file disk := by
  cases file with
  | none => simp [diskWithout, bytesOf, uncounted]
  | some path =>
    have hsum := sum_update (hpaths.filter fun path => path ≠ env.storePath) path disk
    rw [diskWithout, bytesOf, uncounted, Option.elim_some, Option.elim_some,
      Option.elim_some, diskAfter, hrm path, if_pos rfl, remainingBytes,
      remainingBytes, hsum]
    by_cases hcounted : path ∈ env.files.map canonicalPath ∧ path ≠ env.storePath
    · rw [if_pos hcounted, if_pos (by simpa using hcounted)]
      omega
    · rw [if_neg hcounted, if_neg (by simpa using hcounted)]
      omega

theorem sum_filter_ne {paths : List Path} (hnodup : paths.Nodup) (path : Path) (disk : Disk Path) :
    ((paths.filter fun other => other ≠ path).map fun other =>
      (disk other : ℤ)).sum = (paths.map fun other => (disk other : ℤ)).sum -
          if path ∈ paths then (disk path : ℤ) else 0 := by
  have hfilter : (paths.filter fun other => other ≠ path) = paths.erase path := by
    simpa [bne, BEq.beq] using (hnodup.erase_eq_filter path).symm
  rw [hfilter]
  split_ifs with hmem
  · rw [← List.sum_map_erase _ hmem]
    omega
  · rw [List.erase_of_not_mem hmem, sub_zero]

theorem start_deficit (hpaths : (env.files.map canonicalPath).Nodup) :
    env.deficit (env.start disk store) = 0 := by
  have hsum := sum_filter_ne hpaths env.storePath disk
  simp only [deficit, remainingBytes, start, hsum, List.map_map, Function.comp_def]
  omega

section

variable (hrm : ∀ path, env.rm path = true) (hpaths : (env.files.map canonicalPath).Nodup)
include hrm hpaths

theorem deficit_queued (file : SessionsDirFile Path) :
    env.deficit (env.removeQueuedFile sizes false sweep file) =
      env.deficit sweep + env.uncounted (some file.canonicalPath) sweep.disk := by
  obtain ⟨hdisk, hstore, -, -, htotal, -⟩ := removeQueuedFile_spec env sizes sweep file
  have hwithout : (env.removeQueuedFile sizes false sweep file).disk =
      env.diskWithout (some file.canonicalPath) sweep.disk := hdisk
  have hremaining := @remainingBytes_diskWithout _ _ _ env sweep.disk hrm hpaths
    (some file.canonicalPath) sweep.store
  have hbytes : bytesOf (some file.canonicalPath) sweep.disk = sweep.disk file.canonicalPath := rfl
  simp only [deficit]
  rw [hwithout, hstore, htotal, hremaining]
  omega

theorem deficit_released {stored : JsString × SessionEntry Body} {after : Sweep Path Body}
    {file : Option Path} (htracked : Tracked env sweep)
    (hstored : stored ∈ sweep.store)
    (hstore : after.store = erase stored.1 sweep.store)
    (hreleased : Released env stored sweep.disk (sweep.total - env.entryBytes stored) after file) :
    env.deficit after = env.deficit sweep + env.uncounted file sweep.disk := by
  have hremaining := @remainingBytes_diskWithout _ _ _ env sweep.disk hrm hpaths
    file (erase stored.1 sweep.store)
  have herase := @measureStoreBytes_erase _ _ env _ htracked.keys _ hstored
  simp only [deficit]
  rw [hreleased.disk, hstore, hreleased.total, hremaining]
  simp only [remainingBytes, herase]
  omega

end

theorem remainingBytes_pos (disk : Disk Path) (store : Store Body) :
    0 < env.remainingBytes disk store := by
  have hsum : 0 ≤ (((env.files.map canonicalPath).filter
      fun path => path ≠ env.storePath).map fun path => (disk path : ℤ)).sum := by
    apply List.sum_nonneg
    intro bytes hbytes
    obtain ⟨path, -, rfl⟩ := List.mem_map.mp hbytes
    omega
  have hstore := @measureStoreBytes_pos _ _ env store
  unfold remainingBytes
  omega

/-- The transcripts of the stored entries are as they were, and the total is
right. -/
structure Kept (env : SweepEnv Path Body) (disk : Disk Path)
    (sweep : Sweep Path Body) : Prop where
  transcripts : ∀ stored ∈ sweep.store, ∀ path,
    env.resolveSessionTranscriptPathForEntry stored.2 = some path → sweep.disk path = disk path
  exact : (∀ path, env.rm path = true) → env.deficit sweep = 0

theorem mem_removableFileQueue {file : SessionsDirFile Path}
    (hfile : file ∈ env.removableFileQueue store) :
    file ∈ env.files ∧ env.isRemovable store file = true := by
  have hmem := (List.perm_insertionSort _ _).mem_iff.mp hfile
  exact List.mem_filter.mp hmem

section

variable (hcounted : Counted env disk store) (hrm : ∀ path, env.rm path = true)
  (hpaths : (env.files.map canonicalPath).Nodup)
include hcounted hrm hpaths

theorem Counted.queued
    (hexact : env.deficit sweep = 0) (hshrinks : ∀ path, sweep.disk path ≤ disk path)
    {file : SessionsDirFile Path} (hfile : file ∈ env.removableFileQueue store) :
    env.deficit (env.removeQueuedFile sizes false sweep file) = 0 := by
  obtain ⟨hmem, hremovable⟩ := mem_removableFileQueue hfile
  rw [deficit_queued hrm hpaths, hexact, uncounted, Option.elim_some]
  split
  · rfl
  next huncounted =>
    have hpath : file.canonicalPath ∈ env.files.map canonicalPath :=
      List.mem_map_of_mem hmem
    have hempty : disk file.canonicalPath = 0 := by
      by_contra hbytes
      exact huncounted ⟨hpath, hcounted.storeFile file hmem hbytes hremovable⟩
    have hle := hshrinks file.canonicalPath
    omega

theorem Counted.released (hkeys : (keys store).Nodup) {done rest : Store Body}
    {stored : JsString × SessionEntry Body} {after : Sweep Path Body}
    {file : Option Path} (hexact : env.deficit sweep = 0)
    (hshrinks : ∀ path, sweep.disk path ≤ disk path)
    (horder : sweepOrder store = done ++ stored :: rest)
    (hworked : Worked env active store done sweep)
    (hafter : Worked env active store (done ++ [stored]) after)
    (hstore : after.store = erase stored.1 sweep.store)
    (hreleased : Released env stored sweep.disk (sweep.total - env.entryBytes stored) after file) :
    env.deficit after = 0 := by
  have hstored : stored ∈ sweep.store := by
    rw [hworked.store_eq]
    exact mem_of_order hkeys horder
  rw [deficit_released hrm hpaths hworked.tracked hstored hstore hreleased, hexact]
  cases hfile : file with
  | none => rfl
  | some path =>
    rw [uncounted, Option.elim_some]
    split
    · rfl
    next huncounted =>
      obtain ⟨hresolved, hothers⟩ := hreleased.last path hfile
      obtain ⟨hlast, -⟩ := hafter.isLast hkeys horder hothers
      have hempty : disk path = 0 := by
        by_contra hbytes
        exact huncounted (hcounted.listed done stored rest path horder hlast hresolved hbytes)
      have hle := hshrinks path
      omega

end

section

variable (hseparate : Separate env disk store) (hpaths : (env.files.map canonicalPath).Nodup)
include hseparate hpaths

theorem Kept.queued (hkept : Kept env disk sweep) (hshrinks : ∀ path, sweep.disk path ≤ disk path)
    (hstore : sweep.store = store) {file : SessionsDirFile Path}
    (hfile : file ∈ env.removableFileQueue store) :
    Kept env disk (env.removeQueuedFile sizes false sweep file) := by
  obtain ⟨hmem, hremovable⟩ := mem_removableFileQueue hfile
  obtain ⟨hdisk, hstoreAfter, -, -, -, -⟩ := removeQueuedFile_spec env sizes sweep file
  constructor
  · intro stored hstored path hpath
    rw [hstoreAfter] at hstored
    rw [hdisk]
    by_cases hempty : sweep.disk file.canonicalPath = 0
    · rw [diskAfter_of_empty hempty]
      exact hkept.transcripts stored hstored path hpath
    · have hne : path ≠ file.canonicalPath := by
        rintro rfl
        have hbytes : disk file.canonicalPath ≠ 0 := by
          have hle := hshrinks file.canonicalPath
          omega
        rw [hstore] at hstored
        have hno := hseparate.archives file hmem hbytes
        rw [isRemovable, Bool.or_eq_true] at hremovable
        rcases hremovable with harchive | hprimary
        · exact hno harchive stored hstored hpath
        · simp only [Bool.and_eq_true, Bool.not_eq_eq_eq_not, Bool.not_true,
            decide_eq_false_iff_not] at hprimary
          exact hprimary.2 ⟨stored, hstored, hpath⟩
      rw [diskAfter_of_ne hne]
      exact hkept.transcripts stored hstored path hpath
  · intro hrm
    exact hseparate.toCounted.queued hrm hpaths (hkept.exact hrm) hshrinks hfile

theorem Kept.released (hkeys : (keys store).Nodup) {done rest : Store Body}
    {stored : JsString × SessionEntry Body} {after : Sweep Path Body}
    {file : Option Path} (hkept : Kept env disk sweep)
    (hshrinks : ∀ path, sweep.disk path ≤ disk path)
    (horder : sweepOrder store = done ++ stored :: rest)
    (hworked : Worked env active store done sweep)
    (hafter : Worked env active store (done ++ [stored]) after)
    (hstore : after.store = erase stored.1 sweep.store)
    (hreleased : Released env stored sweep.disk (sweep.total - env.entryBytes stored) after file) :
    Kept env disk after := by
  have hstored : stored ∈ sweep.store := by
    rw [hworked.store_eq]
    exact mem_of_order hkeys horder
  constructor
  · intro other hother path hpath
    have hbefore : other ∈ sweep.store := by
      rw [hstore] at hother
      exact (mem_erase.mp hother).1
    have hsame := hkept.transcripts other hbefore path hpath
    cases hfile : file with
    | none =>
      rw [hreleased.disk, hfile]
      exact hsame
    | some removed =>
      rw [hreleased.disk, hfile, diskWithout, Option.elim_some]
      by_cases hne : path = removed
      · subst hne
        obtain ⟨hresolved, hothers⟩ := hreleased.last path hfile
        by_cases hempty : disk path = 0
        · have hle := hshrinks path
          rw [diskAfter_of_empty (by omega)]
          exact hsame
        · obtain ⟨hlast, hinactive⟩ := hafter.isLast hkeys horder hothers
          obtain ⟨hrest, hdone⟩ :=
            hseparate.shared done stored rest path horder hlast hresolved hempty
          exfalso
          rw [hafter.store_eq] at hother
          obtain ⟨hotherStore, hwhy⟩ := mem_stillStored.mp hother
          have hsession : other.2.session ≠ stored.2.session := by
            apply hothers
            rw [hafter.store_eq]
            exact hother
          rw [← (sweepOrder_perm store).mem_iff, horder] at hotherStore
          rcases List.mem_append.mp hotherStore with hotherDone | hotherRest
          · have hkey : other.1 ∈ keys (done ++ [stored]) :=
              mem_keys_concat.mpr (.inl (List.mem_map_of_mem hotherDone))
            have hactive := hwhy.resolve_right fun hnot => hnot hkey
            have hself := isActive_iff hactive other.1
            rw [hactive] at hself
            obtain ⟨member, hmember, hmemberSession, hmemberActive⟩ :=
              hdone other hotherDone hpath hsession hself.symm
            have hinactiveMember := hinactive member hmember hmemberSession
            rw [isActive_iff hactive member.1, hmemberActive] at hinactiveMember
            cases hinactiveMember
          · rcases List.mem_cons.mp hotherRest with rfl | hotherRest
            · exact hsession rfl
            · exact hrest other hotherRest hpath
      · rw [diskAfter_of_ne hne]
        exact hsame
  · intro hrm
    exact hseparate.toCounted.released hrm hpaths hkeys (hkept.exact hrm) hshrinks
      horder hworked hafter hstore hreleased

end

section Whole

variable {params : SweepParams}

theorem reduce_induct (hdry : params.dryRun = false) (hkeys : (keys store).Nodup)
    (first : List (SessionsDirFile Path) → Sweep Path Body → Prop)
    (second : Store Body → Sweep Path Body → Prop)
    (hstart : first [] (env.start disk store))
    (hqueued : ∀ done file rest sweep, env.removableFileQueue store = done ++ file :: rest →
      atHighWater highWaterBytes sweep = false →
      Worked env params.activeSessionKey store [] sweep →
      Orderly env highWaterBytes disk sweep → first done sweep →
        first (done ++ [file]) (env.removeQueuedFile (env.fileSizesByPath disk) false sweep file))
    (hbetween : ∀ done rest sweep, env.removableFileQueue store = done ++ rest →
      (rest = [] ∨ atHighWater highWaterBytes sweep = true) →
      first done sweep → second [] sweep)
    (hround : ∀ done stored rest sweep, sweepOrder store = done ++ stored :: rest →
      atHighWater highWaterBytes sweep = false →
      Worked env params.activeSessionKey store done sweep →
      Orderly env highWaterBytes disk sweep → second done sweep →
        second (done ++ [stored]) (env.removeEntry (env.fileSizesByPath disk)
          false params.activeSessionKey sweep stored)) :
    ∃ done rest, sweepOrder store = done ++ rest ∧ Worked env params.activeSessionKey store done
        (env.reduce params highWaterBytes disk store) ∧
      Orderly env highWaterBytes disk (env.reduce params highWaterBytes disk store) ∧
      second done (env.reduce params highWaterBytes disk store) ∧
      (rest = [] ∨ atHighWater highWaterBytes
        (env.reduce params highWaterBytes disk store) = true) := by
  obtain ⟨filesDone, filesRest, hqueue, ⟨hworked, horderly, hfirst⟩, hend⟩ :=
    @foldUntil_induct _ _ (atHighWater highWaterBytes)
      (env.removeQueuedFile (env.fileSizesByPath disk) false)
      (env.removableFileQueue store) (env.start disk store)
      (fun done sweep => Worked env params.activeSessionKey store [] sweep ∧
        Orderly env highWaterBytes disk sweep ∧ first done sweep)
      ⟨start_worked disk hkeys, start_orderly, hstart⟩
      (by
        rintro done file rest sweep hsplit hruns ⟨hworked, horderly, hfirst⟩
        exact ⟨hworked.queued file, horderly.queued hruns file,
          hqueued done file rest sweep hsplit hruns hworked horderly hfirst⟩)
  obtain ⟨done, rest, horder, ⟨hworkedEnd, horderlyEnd, hsecond⟩, hstop⟩ :=
    @foldUntil_induct _ _ (atHighWater highWaterBytes)
      (env.removeEntry (env.fileSizesByPath disk) false
        params.activeSessionKey) (sweepOrder store) _
      (fun done sweep => Worked env params.activeSessionKey store done sweep ∧
        Orderly env highWaterBytes disk sweep ∧ second done sweep)
      ⟨hworked, horderly, hbetween filesDone filesRest _ hqueue hend hfirst⟩
      (by
        rintro done stored rest sweep hsplit hruns ⟨hworked, horderly, hsecond⟩
        obtain ⟨hafter, hwhich⟩ := hworked.round (env.fileSizesByPath disk) hkeys hsplit
        refine ⟨hafter, ?_, hround done stored rest sweep hsplit hruns hworked horderly hsecond⟩
        rcases hwhich with ⟨-, hsame⟩ | ⟨-, -, hremovals, file, hreleased⟩
        · rw [hsame]
          exact horderly
        · exact horderly.released hruns hremovals hreleased)
  have hreduce : env.reduce params highWaterBytes disk store =
      foldUntil (atHighWater highWaterBytes)
        (env.removeEntry (env.fileSizesByPath disk) false params.activeSessionKey)
        (sweepOrder store)
        (foldUntil (atHighWater highWaterBytes)
          (env.removeQueuedFile (env.fileSizesByPath disk) false)
          (env.removableFileQueue store) (env.start disk store)) := by
    simp only [reduce, removeFiles, removeEntries, hdry]
  rw [hreduce]
  exact ⟨done, rest, horder, hworkedEnd, horderlyEnd, hsecond, hstop⟩

theorem reduce_kept (hseparate : Separate env disk store)
    (hpaths : (env.files.map canonicalPath).Nodup)
    (hkeys : (keys store).Nodup) (hdry : params.dryRun = false) :
    ∃ done rest, sweepOrder store = done ++ rest ∧ Worked env params.activeSessionKey store done
        (env.reduce params highWaterBytes disk store) ∧
      Orderly env highWaterBytes disk (env.reduce params highWaterBytes disk store) ∧
      Kept env disk (env.reduce params highWaterBytes disk store) ∧
      (rest = [] ∨ atHighWater highWaterBytes
        (env.reduce params highWaterBytes disk store) = true) := by
  apply reduce_induct hdry hkeys (fun _ sweep => Kept env disk sweep)
    (fun _ sweep => Kept env disk sweep)
  case hstart =>
    exact ⟨fun _ _ _ _ => rfl, fun _ => start_deficit hpaths⟩
  case hqueued =>
    intro done file rest sweep hqueue _ hworked horderly hkept
    have hstore : sweep.store = store := by
      rw [hworked.store_eq]
      exact List.filter_eq_self.mpr fun stored _ => by simp [keys]
    exact hkept.queued hseparate hpaths horderly.shrinks hstore (by rw [hqueue]; simp)
  case hbetween =>
    intro _ _ _ _ _ hkept
    exact hkept
  case hround =>
    intro done stored rest sweep horder _ hworked horderly hkept
    obtain ⟨hafter, hwhich⟩ := hworked.round (env.fileSizesByPath disk) hkeys horder
    rcases hwhich with ⟨-, hsame⟩ | ⟨-, hstore, -, file, hreleased⟩
    · rw [hsame]
      exact hkept
    · exact hkept.released hseparate hpaths hkeys horderly.shrinks horder hworked
        hafter hstore hreleased

end Whole

/-! ## The dry run -/

section DryRun

def simulatedBytes (sizes : Path → Option ℕ) (sweep : Sweep Path Body) (path : Path) : ℕ :=
  if path ∈ sweep.simulatedRemovedPaths then 0 else (sizes path).getD 0

structure Agrees (sizes : Path → Option ℕ) (touched : Path → Prop)
    (dry real : Sweep Path Body) : Prop where
  bytes : ∀ path, touched path → simulatedBytes sizes dry path = real.disk path
  store : dry.store = real.store
  counts : dry.sessionIdRefCounts = real.sessionIdRefCounts
  projected : dry.projectedStoreBytes = real.projectedStoreBytes
  total : dry.total = real.total
  removedFiles : dry.removedFiles = real.removedFiles
  removedEntries : dry.removedEntries = real.removedEntries
  freedBytes : dry.freedBytes = real.freedBytes

variable {touched : Path → Prop} {dry real : Sweep Path Body}

section

variable (hrm : ∀ path, env.rm path = true) (hagrees : Agrees sizes touched dry real)
include hrm hagrees

theorem Agrees.removal {path : Path} (htouched : touched path) :
    Agrees sizes touched (countRemoval (env.removeFileForBudget sizes true path dry))
      (countRemoval (env.removeFileForBudget sizes false path real)) := by
  have hbytes := hagrees.bytes path htouched
  have hreal : env.removeFileForBudget sizes false path real = (real.disk path,
        { real with disk := Function.update real.disk path 0 }) := by
    simp [removeFileForBudget, hrm path]
  rw [hreal]
  by_cases hempty : real.disk path = 0
  · have hdry : env.removeFileForBudget sizes true path dry = (0, dry) := by
      rw [hempty, simulatedBytes] at hbytes
      unfold removeFileForBudget
      rw [if_pos rfl]
      split
      · rfl
      next hnot =>
        rw [if_neg hnot] at hbytes
        simp [hbytes]
    have hsame : Function.update real.disk path 0 = real.disk := by
      rw [← hempty, Function.update_eq_self]
    rw [hdry, hsame, hempty]
    exact hagrees
  · have hnot : path ∉ dry.simulatedRemovedPaths := by
      intro hmem
      rw [simulatedBytes, if_pos hmem] at hbytes
      exact hempty hbytes.symm
    rw [simulatedBytes, if_neg hnot] at hbytes
    have hdry : env.removeFileForBudget sizes true path dry = (real.disk path, { dry with
            simulatedRemovedPaths := insert path dry.simulatedRemovedPaths }) := by
      simp [removeFileForBudget, hnot, hbytes, hempty]
    rw [hdry]
    simp only [countRemoval, if_neg hempty]
    constructor
    case bytes =>
      intro other hother
      have hbefore := hagrees.bytes other hother
      by_cases hsame : other = path
      · subst hsame
        simp [simulatedBytes]
      · simpa [simulatedBytes, hsame, Function.update_of_ne hsame] using hbefore
    case store => exact hagrees.store
    case counts => exact hagrees.counts
    case projected => exact hagrees.projected
    case total => simp only [hagrees.total]
    case removedFiles => simp only [hagrees.removedFiles]
    case removedEntries => exact hagrees.removedEntries
    case freedBytes => simp only [hagrees.freedBytes]

theorem Agrees.queued {file : SessionsDirFile Path} (htouched : touched file.canonicalPath) :
    Agrees sizes touched (env.removeQueuedFile sizes true dry file)
      (env.removeQueuedFile sizes false real file) := by
  apply Agrees.removal hrm _ htouched
  exact ⟨hagrees.bytes, hagrees.store, hagrees.counts, hagrees.projected,
    hagrees.total, hagrees.removedFiles, hagrees.removedEntries,
    hagrees.freedBytes⟩

end

theorem Agrees.deleted (hagrees : Agrees sizes touched dry real)
    (stored : JsString × SessionEntry Body) :
    Agrees sizes touched (env.deleteEntry stored dry) (env.deleteEntry stored real) := by
  have hprojected : (env.deleteEntry stored dry).projectedStoreBytes =
      (env.deleteEntry stored real).projectedStoreBytes := by
    simp only [deleteEntry, hagrees.projected, hagrees.store]
  constructor
  case bytes => exact hagrees.bytes
  case store => simp only [deleteEntry, hagrees.store]
  case counts => exact hagrees.counts
  case projected => exact hprojected
  case total =>
    have htotal : ∀ sweep : Sweep Path Body, (env.deleteEntry stored sweep).total =
        sweep.total + ((env.deleteEntry stored sweep).projectedStoreBytes -
          sweep.projectedStoreBytes) := fun _ => rfl
    rw [htotal, htotal, hprojected, hagrees.total, hagrees.projected]
  case removedFiles => exact hagrees.removedFiles
  case removedEntries => simp only [deleteEntry, hagrees.removedEntries]
  case freedBytes => exact hagrees.freedBytes

theorem Agrees.released (hrm : ∀ path, env.rm path = true)
    (hagrees : Agrees sizes touched dry real) {entry : SessionEntry Body}
    (htouched : ∀ sessionId path, entry.session = some sessionId →
      (real.sessionIdRefCounts sessionId).getD 1 - 1 ≤ 0 →
      env.resolveSessionTranscriptPathForEntry entry = some path → touched path) :
    Agrees sizes touched (env.releaseSession sizes true entry dry)
      (env.releaseSession sizes false entry real) := by
  unfold releaseSession
  cases hsession : entry.session with
  | none => exact hagrees
  | some sessionId =>
    simp only [hagrees.counts]
    by_cases hshared : (real.sessionIdRefCounts sessionId).getD 1 - 1 > 0
    · rw [if_pos hshared, if_pos hshared]
      exact ⟨hagrees.bytes, hagrees.store, rfl, hagrees.projected, hagrees.total,
        hagrees.removedFiles, hagrees.removedEntries, hagrees.freedBytes⟩
    · rw [if_neg hshared, if_neg hshared]
      have hwithout : Agrees sizes touched { dry with
            sessionIdRefCounts := Function.update real.sessionIdRefCounts sessionId none }
          { real with
            sessionIdRefCounts := Function.update real.sessionIdRefCounts sessionId none } :=
        ⟨hagrees.bytes, hagrees.store, rfl, hagrees.projected, hagrees.total,
          hagrees.removedFiles, hagrees.removedEntries, hagrees.freedBytes⟩
      cases hpath : env.resolveSessionTranscriptPathForEntry entry with
      | none => exact hwithout
      | some path =>
        exact hwithout.removal hrm (htouched sessionId path hsession (by omega) hpath)

def MayTouch (env : SweepEnv Path Body) (store : Store Body) (path : Path) :
    Prop :=
  path ∈ env.files.map canonicalPath ∨
    ∃ done stored rest, sweepOrder store = done ++ stored :: rest ∧ IsLast stored rest ∧
      env.resolveSessionTranscriptPathForEntry stored.2 = some path

theorem start_agrees (hseparate : Separate env disk store) :
    Agrees (env.fileSizesByPath disk) (MayTouch env store)
      (env.start disk store) (env.start disk store) := by
  refine ⟨?_, rfl, rfl, rfl, rfl, rfl, rfl, rfl⟩
  intro path htouched
  have hnone : path ∉ (env.start disk store).simulatedRemovedPaths := by
    simp [start]
  rw [simulatedBytes, if_neg hnone, fileSizesByPath]
  split
  · rfl
  next hunlisted =>
    obtain ⟨done, stored, rest, horder, hlast, hpath⟩ := htouched.resolve_left hunlisted
    by_contra hbytes
    have hsome : disk path ≠ 0 := fun hempty => hbytes hempty.symm
    exact hunlisted (hseparate.listed done stored rest path horder hlast hpath hsome).1

theorem reduce_agrees (hseparate : Separate env disk store)
    (hkeys : (keys store).Nodup) (hrm : ∀ path, env.rm path = true)
    (params : SweepParams) :
    Agrees (env.fileSizesByPath disk) (MayTouch env store)
      (env.reduce { params with dryRun := true } highWaterBytes disk store)
      (env.reduce { params with dryRun := false } highWaterBytes disk store) := by
  have hstop : ∀ dry real : Sweep Path Body, dry.total = real.total →
      atHighWater highWaterBytes dry = atHighWater highWaterBytes real := by
    intro dry real htotal
    simp only [atHighWater, htotal]
  obtain ⟨-, hfiles, hworkedFiles⟩ := @foldUntil_related _ _ (atHighWater highWaterBytes)
    (env.removeQueuedFile (env.fileSizesByPath disk) true) _
    (atHighWater highWaterBytes)
    (env.removeQueuedFile (env.fileSizesByPath disk) false)
    (env.removableFileQueue store) (env.start disk store) (env.start disk store)
    (fun _ dry real => Agrees (env.fileSizesByPath disk) (MayTouch env store)
      dry real ∧ Worked env params.activeSessionKey store [] real)
    ⟨start_agrees hseparate, start_worked disk hkeys⟩
    (fun _ dry real hboth => hstop dry real hboth.1.total)
    (by
      rintro done file rest dry real hqueue ⟨hagrees, hworked⟩
      have hmem : file ∈ env.removableFileQueue store := by
        rw [hqueue]
        simp
      refine ⟨hagrees.queued hrm (.inl ?_), hworked.queued file⟩
      exact List.mem_map_of_mem (mem_removableFileQueue hmem).1)
  obtain ⟨-, hentries, -⟩ := @foldUntil_related _ _ (atHighWater highWaterBytes)
    (env.removeEntry (env.fileSizesByPath disk) true params.activeSessionKey) _
    (atHighWater highWaterBytes)
    (env.removeEntry (env.fileSizesByPath disk) false params.activeSessionKey)
    (sweepOrder store) _ _
    (fun done dry real => Agrees (env.fileSizesByPath disk) (MayTouch env store)
      dry real ∧ Worked env params.activeSessionKey store done real)
    ⟨hfiles, hworkedFiles⟩
    (fun _ dry real hboth => hstop dry real hboth.1.total)
    (by
      rintro done stored rest dry real horder ⟨hagrees, hworked⟩
      obtain ⟨hafter, hwhich⟩ := hworked.round (env.fileSizesByPath disk) hkeys horder
      refine ⟨?_, hafter⟩
      rcases hwhich with ⟨hactive, -⟩ | ⟨hactive, hstore, -, -⟩
      · rw [removeEntry, removeEntry, hactive, if_pos rfl, if_pos rfl]
        exact hagrees
      · have hstored : stored ∈ real.store := by
          rw [hworked.store_eq]
          exact mem_of_order hkeys horder
        rw [removeEntry, removeEntry, hactive, if_neg (by simp), if_neg (by simp)]
        apply (hagrees.deleted stored).released hrm
        intro sessionId path hsession hnext hpath
        have hcount := sessionCount_erase hworked.tracked.keys hstored sessionId
        rw [if_pos hsession] at hcount
        have hcounts := hworked.tracked.counts sessionId (by omega)
        have hdeleted : (env.deleteEntry stored real).sessionIdRefCounts =
            real.sessionIdRefCounts := rfl
        rw [hdeleted, hcounts, Option.getD_some, hcount] at hnext
        have hothers : ∀ other ∈ (env.removeEntry (env.fileSizesByPath disk) false
            params.activeSessionKey real stored).store,
            other.2.session ≠ stored.2.session := by
          intro other hother hsame
          rw [hstore] at hother
          have hpos := sessionCount_pos.mpr ⟨other, hother, hsame.trans hsession⟩
          omega
        exact .inr ⟨done, stored, rest, horder, (hafter.isLast hkeys horder hothers).1, hpath⟩)
  exact hentries

end DryRun

section Soundness

variable {params : SweepParams}

theorem realRun_cases (params : SweepParams) (disk : Disk Path) (store : Store Body) :
    (env.realRun params disk store).2 = env.start disk store ∧
        (∀ result, (env.realRun params disk store).1 = some result →
          result.totalBytesAfter = (env.start disk store).total) ∧
        (env.dryRun params disk store).1 = (env.realRun params disk store).1 ∨
      ∃ maxBytes highWaterBytes, params.maxDiskBytes = some maxBytes ∧
        params.highWaterBytes = some highWaterBytes ∧
        (maxBytes : ℤ) < (env.start disk store).total ∧
        params.warnOnly = false ∧
        env.realRun params disk store = (some (resultOf (env.start disk store)
            (env.reduce { params with dryRun := false } highWaterBytes disk store)
            maxBytes highWaterBytes true),
          env.reduce { params with dryRun := false } highWaterBytes disk store) ∧
        (env.dryRun params disk store).1 = some (resultOf (env.start disk store)
            (env.reduce { params with dryRun := true } highWaterBytes disk store)
            maxBytes highWaterBytes true) := by
  unfold realRun dryRun enforceSessionDiskBudget
  cases hmax : params.maxDiskBytes with
  | none => simp
  | some maxBytes =>
    cases hwater : params.highWaterBytes with
    | none => simp
    | some highWaterBytes =>
      by_cases hunder : (env.start disk store).total ≤ maxBytes
      · left
        simp only [if_pos hunder]
        refine ⟨trivial, ?_, trivial⟩
        rintro result ⟨⟩
        rfl
      · cases hwarn : params.warnOnly with
        | true =>
          left
          simp only [if_neg hunder, if_true]
          refine ⟨trivial, ?_, trivial⟩
          rintro result ⟨⟩
          rfl
        | false =>
          right
          refine ⟨maxBytes, highWaterBytes, rfl, rfl, by omega, rfl, ?_, ?_⟩
          · simp [if_neg hunder]
          · simp [if_neg hunder]

theorem sound_of_start (hpaths : (env.files.map canonicalPath).Nodup)
    (hstart : (env.realRun params disk store).2 = env.start disk store)
    (htotal : ∀ result, (env.realRun params disk store).1 = some result →
      result.totalBytesAfter = (env.start disk store).total)
    (hdry : (env.dryRun params disk store).1 = (env.realRun params disk store).1) :
    Sound env params disk store := by
  have hnone : (env.start disk store).removals = [] := rfl
  have hremoved : (env.start disk store).removed = [] := rfl
  constructor
  case transcripts => rw [hstart]; exact fun _ _ _ _ => rfl
  case active => rw [hstart]; exact fun _ hstored _ => hstored
  case watermark => rw [hstart, hnone]; simp
  case explainedFiles => rw [hstart]; exact fun _ hchanged => absurd rfl hchanged
  case explainedEntries => rw [hstart]; exact fun _ hstored hnot => absurd hstored hnot
  case inOrder => rw [hstart, hremoved]; exact List.Pairwise.nil
  case oldest => rw [hstart, hremoved]; simp
  case total =>
    intro _ result hresult
    have hdeficit := @start_deficit _ _ _ env store disk hpaths
    rw [deficit] at hdeficit
    rw [htotal result hresult, hstart]
    omega
  case dry => exact fun _ => hdry

theorem sound_of_separate (hseparate : Separate env disk store)
    (hpaths : (env.files.map canonicalPath).Nodup)
    (hkeys : (keys store).Nodup) (params : SweepParams) :
    Sound env params disk store := by
  rcases @realRun_cases _ _ _ env params disk store with
    ⟨hstart, htotal, hdry⟩ |
    ⟨maxBytes, highWaterBytes, -, hwater, -, -, hreal, hdry⟩
  · exact sound_of_start hpaths hstart htotal hdry
  obtain ⟨done, rest, horder, hworked, horderly, hkept, -⟩ :=
    @reduce_kept _ _ _ env store highWaterBytes disk
      { params with dryRun := false } hseparate hpaths hkeys rfl
  have hsorted := sweepOrder_pairwise store
  rw [horder, List.pairwise_append] at hsorted
  constructor
  case transcripts => rw [hreal]; exact hkept.transcripts
  case active =>
    intro stored hstored hactive
    rw [hreal, hworked.store_eq]
    exact mem_stillStored.mpr ⟨hstored, .inl hactive⟩
  case watermark =>
    intro bytes hbytes
    rw [hwater, Option.some.injEq] at hbytes
    rw [hreal, ← hbytes]
    exact horderly.above
  case explainedFiles => rw [hreal]; exact horderly.explained
  case explainedEntries =>
    intro stored hstored hgone
    rw [hreal] at hgone ⊢
    rw [hworked.store_eq, mem_stillStored] at hgone
    rw [hworked.removed_eq, List.mem_filter]
    have hactive : env.isActive params.activeSessionKey stored.1 = false := by
      by_contra hactive
      exact hgone ⟨hstored, .inl (by simpa using hactive)⟩
    refine ⟨?_, by simpa using hactive⟩
    have hkey : stored.1 ∈ keys done := by
      by_contra hkey
      exact hgone ⟨hstored, .inr hkey⟩
    obtain ⟨other, hother, hsame⟩ := List.mem_map.mp hkey
    have hotherStore : other ∈ store := by
      rw [← (sweepOrder_perm store).mem_iff, horder]
      exact List.mem_append_left _ hother
    rw [← List.inj_on_of_nodup_map hkeys hotherStore hstored hsame]
    exact hother
  case inOrder =>
    rw [hreal, hworked.removed_eq]
    exact hsorted.1.filter _
  case oldest =>
    intro removed hremoved stored hstored hactive
    rw [hreal] at hremoved hstored
    rw [hworked.removed_eq, List.mem_filter] at hremoved
    rw [hworked.store_eq, mem_stillStored, hactive] at hstored
    obtain ⟨hmem, hkey⟩ := hstored
    have hnew : stored.1 ∉ keys done := by simpa using hkey
    rw [← (sweepOrder_perm store).mem_iff, horder, List.mem_append] at hmem
    have hrest := hmem.resolve_left fun hdone =>
      hnew (List.mem_map_of_mem hdone)
    exact hsorted.2.2 removed hremoved.1 stored hrest
  case total =>
    intro hrm result hresult
    have hexact := hkept.exact hrm
    rw [deficit] at hexact
    rw [hreal] at hresult ⊢
    cases hresult
    simp only [resultOf]
    omega
  case dry =>
    intro hrm
    have hagrees := @reduce_agrees _ _ _ env store highWaterBytes disk hseparate hkeys hrm params
    rw [hdry, hreal]
    simp only [resultOf, hagrees.total, hagrees.removedFiles,
      hagrees.removedEntries, hagrees.freedBytes]

end Soundness

end Entries

end SweepEnv

end LittleBaby.DiskBudget
