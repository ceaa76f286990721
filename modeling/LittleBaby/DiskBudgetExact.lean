import LittleBaby.DiskBudgetSafety

/-!
# When a disk-budget sweep is sound

Files that are not told apart are lost, or not counted, under some budget and
some active session.
-/

namespace LittleBaby.DiskBudget

open JsString FoldUntil SessionsDirFile

variable {Path Body : Type*} [DecidableEq Path]

namespace SweepEnv

variable {env : SweepEnv Path Body} {disk : Disk Path} {store : Store Body}
  {active : Option JsString} {highWaterBytes : ℕ}

/-- The parameters of a sweep that reduces the directory to the given size. -/
def reducingTo (active : Option JsString) (bytes : ℕ) : SweepParams where
  activeSessionKey := active
  maxDiskBytes := some bytes
  highWaterBytes := some bytes
  warnOnly := false
  dryRun := false

theorem realRun_reducingTo (hover : (highWaterBytes : ℤ) < (env.start disk store).total) :
    (env.realRun (reducingTo active highWaterBytes) disk store).2 =
        env.reduce (reducingTo active highWaterBytes) highWaterBytes disk store ∧
      ∃ result, (env.realRun (reducingTo active highWaterBytes) disk store).1 = some result ∧
          result.totalBytesAfter =
            (env.reduce (reducingTo active highWaterBytes) highWaterBytes disk store).total := by
  have hnot : ¬ (env.start disk store).total ≤ highWaterBytes := by omega
  unfold realRun enforceSessionDiskBudget reducingTo
  simp only [if_neg hnot]
  exact ⟨rfl, _, rfl, rfl⟩

omit [DecidableEq Path] in
theorem isActive_none (key : JsString) : env.isActive none key = false := rfl

theorem total_eq (sweep : Sweep Path Body) :
    sweep.total = env.remainingBytes sweep.disk sweep.store - env.deficit sweep := by
  unfold deficit
  omega

theorem runs_of_exact {sweep : Sweep Path Body} (hexact : env.deficit sweep = 0) :
    0 < sweep.total := by
  have hpos := @remainingBytes_pos _ _ _ env sweep.disk sweep.store
  have htotal := @total_eq _ _ _ env sweep
  omega

theorem deficit_pos_of_stopped {sweep : Sweep Path Body}
    (hstop : atHighWater 0 sweep = true) : 0 < env.deficit sweep := by
  have hpos := @remainingBytes_pos _ _ _ env sweep.disk sweep.store
  have htotal := @total_eq _ _ _ env sweep
  have hlow : sweep.total ≤ 0 := by simpa [atHighWater] using hstop
  omega

theorem exact_of_sound (hpaths : (env.files.map canonicalPath).Nodup)
    (hrm : ∀ path, env.rm path = true)
    (hsound : ∀ params, Sound env params disk store) :
    env.deficit (env.reduce (reducingTo none 0) 0 disk store) = 0 := by
  have hover : ((0 : ℕ) : ℤ) < (env.start disk store).total := by
    have hstart := runs_of_exact (@start_deficit _ _ _ env store disk hpaths)
    simpa using hstart
  obtain ⟨hreal, result, hresult, htotal⟩ := @realRun_reducingTo _ _ _ env disk store none 0 hover
  have hexact := (hsound (reducingTo none 0)).total hrm result hresult
  rw [hreal, htotal] at hexact
  unfold deficit
  omega

omit [DecidableEq Path] in
theorem order_split (hkeys : (Entries.keys store).Nodup)
    {front back done rest : Store Body} {stored : JsString × SessionEntry Body}
    (hfront : sweepOrder store = front ++ stored :: back)
    (hdone : sweepOrder store = done ++ stored :: rest) : back = rest := by
  have hnodup := List.Nodup.of_map _ (sweepOrder_keys_nodup hkeys)
  rw [hfront, List.nodup_middle, List.nodup_cons, List.mem_append, not_or] at hnodup
  have hsame := (List.append_cons_inj_of_notMem hnodup.1.1 hnodup.1.2).mp (hfront.symm.trans hdone)
  exact hsame.2.2

omit [DecidableEq Path] in
theorem runs_of_above {bound : ℕ} (sweep : Sweep Path Body) (habove : (bound : ℤ) < sweep.total) :
    atHighWater bound sweep = false := by
  simpa [atHighWater] using habove

theorem disk_round_le (sizes : Path → Option ℕ) (hkeys : (Entries.keys store).Nodup)
    {done rest : Store Body} {stored : JsString × SessionEntry Body} {sweep : Sweep Path Body}
    (horder : sweepOrder store = done ++ stored :: rest)
    (hworked : Worked env active store done sweep) (path : Path) :
    (env.removeEntry sizes false active sweep stored).disk path ≤ sweep.disk path := by
  obtain ⟨-, ⟨-, hsame⟩ | ⟨-, -, -, file, hreleased⟩⟩ := hworked.round sizes hkeys horder
  · rw [hsame]
  · rw [hreleased.disk]
    cases file with
    | none => exact le_refl _
    | some other => exact diskAfter_le other path sweep.disk

section Falling

variable (hrm : ∀ path, env.rm path = true)
  (hpaths : (env.files.map canonicalPath).Nodup)
  (hkeys : (Entries.keys store).Nodup)

include hrm hpaths

theorem deficit_le_queued {sizes : Path → Option ℕ} (sweep : Sweep Path Body)
    (file : SessionsDirFile Path) :
    env.deficit sweep ≤ env.deficit (env.removeQueuedFile sizes false sweep file) := by
  rw [deficit_queued hrm hpaths]
  have hnonneg := @uncounted_nonneg _ _ _ env (some file.canonicalPath) sweep.disk
  omega

include hkeys

theorem deficit_le_round {sizes : Path → Option ℕ} {done rest : Store Body}
    {stored : JsString × SessionEntry Body} {sweep : Sweep Path Body}
    (horder : sweepOrder store = done ++ stored :: rest)
    (hworked : Worked env active store done sweep) :
    env.deficit sweep ≤ env.deficit (env.removeEntry sizes false active sweep stored) := by
  obtain ⟨-, hwhich⟩ := hworked.round sizes hkeys horder
  rcases hwhich with ⟨-, hsame⟩ | ⟨-, hstore, -, file, hreleased⟩
  · rw [hsame]
  · have hstored : stored ∈ sweep.store := by
      rw [hworked.store_eq]
      exact mem_of_order hkeys horder
    rw [deficit_released hrm hpaths hworked.tracked hstored hstore hreleased]
    have hnonneg := @uncounted_nonneg _ _ _ env file sweep.disk
    omega

theorem uncounted_stays {path : Path} {params : SweepParams} (hdry : params.dryRun = false)
    (huncounted : ¬ (path ∈ env.files.map canonicalPath ∧ path ≠ env.storePath))
    (hbytes : disk path ≠ 0)
    (hexact : env.deficit (env.reduce params highWaterBytes disk store) = 0) :
    (env.reduce params highWaterBytes disk store).disk path = disk path := by
  have hfalls : ∀ (file : Option Path) (before : Disk Path),
      before path = disk path → env.uncounted file before = 0 →
        env.diskWithout file before path = disk path := by
    intro file before hsame hzero
    cases file with
    | none => exact hsame
    | some other =>
      have hne : path ≠ other := by
        rintro rfl
        rw [uncounted, Option.elim_some, if_neg huncounted] at hzero
        omega
      rw [diskWithout, Option.elim_some, diskAfter_of_ne hne]
      exact hsame
  obtain ⟨-, -, -, -, -, ⟨-, hend⟩, -⟩ := @reduce_induct _ _ _ env store
    highWaterBytes disk params hdry hkeys
    (fun _ sweep => 0 ≤ env.deficit sweep ∧ (0 < env.deficit sweep ∨ sweep.disk path = disk path))
    (fun _ sweep => 0 ≤ env.deficit sweep ∧ (0 < env.deficit sweep ∨ sweep.disk path = disk path))
    ⟨(start_deficit hpaths).ge, .inr rfl⟩
    (by
      rintro done file rest sweep - - - - ⟨hnonneg, hlow⟩
      have hstep := @deficit_queued _ _ _ env (env.fileSizesByPath disk) sweep hrm hpaths file
      have hmore := @uncounted_nonneg _ _ _ env (some file.canonicalPath) sweep.disk
      refine ⟨by omega, ?_⟩
      rcases hlow with hlow | hsame
      · exact .inl (by omega)
      · by_cases hzero : env.uncounted (some file.canonicalPath) sweep.disk = 0
        · right
          rw [(removeQueuedFile_spec env _ sweep file).1]
          exact hfalls (some file.canonicalPath) sweep.disk hsame hzero
        · exact .inl (by omega))
    (fun _ _ _ _ _ hlow => hlow)
    (by
      rintro done stored rest sweep horder - hworked - ⟨hnonneg, hlow⟩
      obtain ⟨-, hwhich⟩ := hworked.round (env.fileSizesByPath disk) hkeys horder
      rcases hwhich with ⟨-, hsame⟩ | ⟨-, hstore, -, file, hreleased⟩
      · rw [hsame]
        exact ⟨hnonneg, hlow⟩
      · have hstored : stored ∈ sweep.store := by
          rw [hworked.store_eq]
          exact mem_of_order hkeys horder
        have hstep := deficit_released hrm hpaths hworked.tracked hstored hstore hreleased
        have hmore := @uncounted_nonneg _ _ _ env file sweep.disk
        refine ⟨by omega, ?_⟩
        rcases hlow with hlow | hsame
        · exact .inl (by omega)
        · by_cases hzero : env.uncounted file sweep.disk = 0
          · right
            rw [hreleased.disk]
            exact hfalls file sweep.disk hsame hzero
          · exact .inl (by omega))
  exact hend.resolve_left (by omega)

theorem exhausted {params : SweepParams} (hdry : params.dryRun = false)
    (hexact : env.deficit (env.reduce params 0 disk store) = 0) :
    (∀ file ∈ env.removableFileQueue store,
      (env.reduce params 0 disk store).disk file.canonicalPath = 0) ∧
    ∀ done stored rest path, sweepOrder store = done ++ stored :: rest → IsLast stored rest →
      (∀ other ∈ store, other.2.session = stored.2.session →
        env.isActive params.activeSessionKey other.1 = false) →
      env.resolveSessionTranscriptPathForEntry stored.2 = some path →
        (env.reduce params 0 disk store).disk path = 0 := by
  have hzeroAfter : ∀ path (before : Disk Path), env.diskAfter path before path = 0 := by
    intro path before
    simp [diskAfter, hrm path]
  obtain ⟨all, rest, horder, -, -, hend, hstop⟩ := @reduce_induct _ _ _ env store
    0 disk params hdry hkeys
    (fun done sweep => 0 ≤ env.deficit sweep ∧ ∀ file ∈ done, sweep.disk file.canonicalPath = 0)
    (fun done sweep => 0 < env.deficit sweep ∨ 0 ≤ env.deficit sweep ∧
      (∀ file ∈ env.removableFileQueue store, sweep.disk file.canonicalPath = 0) ∧
      ∀ front stored back path, sweepOrder store = front ++ stored :: back → IsLast stored back →
        (∀ other ∈ store, other.2.session = stored.2.session →
          env.isActive params.activeSessionKey other.1 = false) →
        env.resolveSessionTranscriptPathForEntry stored.2 = some path →
        stored ∈ done → sweep.disk path = 0)
    ⟨(start_deficit hpaths).ge, by simp⟩
    (by
      rintro done file rest sweep - - - - ⟨hnonneg, hgone⟩
      have hmono := @deficit_le_queued _ _ _ env hrm hpaths (env.fileSizesByPath disk) sweep file
      refine ⟨by omega, ?_⟩
      intro other hother
      rw [(removeQueuedFile_spec env _ sweep file).1]
      rcases List.mem_append.mp hother with hother | hother
      · have hle := @diskAfter_le _ _ env _ file.canonicalPath other.canonicalPath sweep.disk
        rw [hgone other hother] at hle
        omega
      · rw [List.mem_singleton.mp hother]
        exact hzeroAfter _ _)
    (by
      rintro done rest sweep hqueue hend ⟨hnonneg, hgone⟩
      rcases hend with rfl | hstop
      · right
        rw [List.append_nil] at hqueue
        rw [hqueue]
        exact ⟨hnonneg, hgone, by simp⟩
      · exact .inl (deficit_pos_of_stopped hstop))
    (by
      rintro done stored rest sweep horder - hworked - hinv
      have hmono := @deficit_le_round _ _ _ env store _ hrm hpaths
        hkeys (env.fileSizesByPath disk) _ _ _ _ horder hworked
      rcases hinv with hlow | ⟨hnonneg, hfiles, hlast⟩
      · exact .inl (by omega)
      obtain ⟨hafter, hwhich⟩ := hworked.round (env.fileSizesByPath disk) hkeys horder
      right
      have hshrinks := disk_round_le (env.fileSizesByPath disk) hkeys horder hworked
      refine ⟨by omega, ?_, ?_⟩
      · intro file hfile
        have hle := hshrinks file.canonicalPath
        rw [hfiles file hfile] at hle
        omega
      · intro front other back path hsplit hotherLast hinactive hpath hmem
        rcases List.mem_append.mp hmem with hmem | hmem
        · have hle := hshrinks path
          rw [hlast front other back path hsplit hotherLast hinactive hpath hmem] at hle
          omega
        · obtain rfl := List.mem_singleton.mp hmem
          have hstored : other ∈ store := by
            rw [← (sweepOrder_perm store).mem_iff, horder]
            simp
          have hactive := hinactive other hstored rfl
          obtain ⟨file, hreleased⟩ : ∃ file, Released env other sweep.disk
              (sweep.total - env.entryBytes other)
              (env.removeEntry (env.fileSizesByPath disk) false
                params.activeSessionKey sweep other) file := by
            rcases hwhich with ⟨hyes, -⟩ | ⟨-, -, -, file, hreleased⟩
            · rw [hactive] at hyes
              cases hyes
            · exact ⟨file, hreleased⟩
          have hsame := order_split hkeys hsplit horder
          have hnot := hafter.not_shared horder (hsame ▸ hotherLast) hinactive
          cases hfile : file with
          | none =>
            obtain ⟨member, hmember, hsession⟩ := hreleased.shared hfile path hpath
            exact absurd hsession (hnot member hmember)
          | some removed =>
            have hresolved := (hreleased.last removed hfile).1
            rw [hpath, Option.some.injEq] at hresolved
            rw [hreleased.disk, hfile, diskWithout, Option.elim_some, hresolved]
            exact hzeroAfter _ _)
  have hall := hend.resolve_left (by omega)
  refine ⟨hall.2.1, ?_⟩
  intro done stored back path hsplit hlast hinactive hpath
  apply hall.2.2 done stored back path hsplit hlast hinactive hpath
  rcases hstop with rfl | hstop
  · rw [List.append_nil] at horder
    rw [← horder, hsplit]
    simp
  · have hpos := @deficit_pos_of_stopped _ _ _ env _ hstop
    omega

end Falling

section Needed

variable (hrm : ∀ path, env.rm path = true)
  (hpaths : (env.files.map canonicalPath).Nodup)
  (hkeys : (Entries.keys store).Nodup)

include hrm hpaths hkeys

theorem counted_of_sound (hsound : ∀ params, Sound env params disk store) :
    Counted env disk store := by
  have hexact := exact_of_sound hpaths hrm hsound
  obtain ⟨hqueue, htranscripts⟩ := exhausted hrm hpaths hkeys rfl hexact
  constructor
  case storeFile =>
    intro file hfile hbytes hremovable hpath
    have hqueued : file ∈ env.removableFileQueue store := by
      rw [removableFileQueue, (List.perm_insertionSort _ _).mem_iff, List.mem_filter]
      exact ⟨hfile, hremovable⟩
    have hstays := uncounted_stays hrm hpaths hkeys rfl
      (fun hcounted => hcounted.2 hpath) hbytes hexact
    rw [hqueue file hqueued] at hstays
    exact hbytes hstays.symm
  case listed =>
    intro done stored rest path horder hlast hpath hbytes
    by_contra huncounted
    have hstays := uncounted_stays hrm hpaths hkeys rfl huncounted hbytes hexact
    rw [htranscripts done stored rest path horder hlast
      (fun other _ _ => isActive_none other.1) hpath] at hstays
    exact hbytes hstays.symm

theorem queue_run (hcounted : Counted env disk store) (active : Option JsString)
    (sizes : Path → Option ℕ) (front back : List (SessionsDirFile Path))
    (hqueue : env.removableFileQueue store = front ++ back) :
    Worked env active store []
        (front.foldl (env.removeQueuedFile sizes false) (env.start disk store)) ∧
      env.deficit (front.foldl (env.removeQueuedFile sizes false) (env.start disk store)) = 0 ∧
      (∀ path, (front.foldl (env.removeQueuedFile sizes false)
        (env.start disk store)).disk path ≤ disk path) ∧
      ∀ path, path ∉ front.map canonicalPath →
        (front.foldl (env.removeQueuedFile sizes false)
          (env.start disk store)).disk path = disk path := by
  induction front using List.reverseRecOn generalizing back with
  | nil => exact ⟨start_worked disk hkeys, start_deficit hpaths,
      fun path => le_refl _, fun path _ => rfl⟩
  | append_singleton front file ih =>
    obtain ⟨hworked, hexact, hshrinks, hothers⟩ := ih (file :: back) (by rw [hqueue]; simp)
    have hmem : file ∈ env.removableFileQueue store := by
      rw [hqueue]
      simp
    rw [List.foldl_append, List.foldl_cons, List.foldl_nil]
    obtain ⟨hdisk, -⟩ := removeQueuedFile_spec env sizes
      (front.foldl (env.removeQueuedFile sizes false) (env.start disk store)) file
    refine ⟨hworked.queued file, hcounted.queued hrm hpaths hexact hshrinks hmem, ?_, ?_⟩
    · intro path
      rw [hdisk]
      exact (diskAfter_le file.canonicalPath path _).trans (hshrinks path)
    · intro path hpath
      rw [List.map_append, List.mem_append, not_or] at hpath
      have hne : path ≠ file.canonicalPath := by simpa using hpath.2
      rw [hdisk, diskAfter_of_ne hne]
      exact hothers path hpath.1

omit hrm hpaths hkeys in
theorem total_queued_le (sizes : Path → Option ℕ) (sweep : Sweep Path Body)
    (file : SessionsDirFile Path) :
    (env.removeQueuedFile sizes false sweep file).total ≤ sweep.total := by
  obtain ⟨-, -, -, -, htotal, -⟩ := removeQueuedFile_spec env sizes sweep file
  omega

theorem archives_of_sound (hcounted : Counted env disk store)
    (hsound : ∀ params, Sound env params disk store) :
    ∀ file ∈ env.files, disk file.canonicalPath ≠ 0 →
      isSessionArchiveArtifactName file.name = true → ∀ stored ∈ store,
        env.resolveSessionTranscriptPathForEntry stored.2 ≠ some file.canonicalPath := by
  intro file hfile hbytes harchive stored hstored hpath
  have hqueued : file ∈ env.removableFileQueue store := by
    rw [removableFileQueue, (List.perm_insertionSort _ _).mem_iff, List.mem_filter]
    exact ⟨hfile, by simp [isRemovable, harchive]⟩
  obtain ⟨front, back, hqueue⟩ := List.append_of_mem hqueued
  have hnodup : ((env.removableFileQueue store).map canonicalPath).Nodup := by
    rw [removableFileQueue, ((List.perm_insertionSort _ _).map _).nodup_iff]
    exact (List.filter_sublist.map _).nodup hpaths
  have hfresh : file.canonicalPath ∉ front.map canonicalPath := by
    rw [hqueue, List.map_append, List.map_cons] at hnodup
    intro hmem
    exact List.disjoint_of_nodup_append hnodup hmem List.mem_cons_self
  set sizes := env.fileSizesByPath disk with hsizes
  set step := env.removeQueuedFile sizes false with hstep
  obtain ⟨-, -, -, hothers⟩ :=
    queue_run hrm hpaths hkeys hcounted none sizes front (file :: back) hqueue
  obtain ⟨hworked, hexact, -, -⟩ := queue_run hrm hpaths hkeys hcounted none sizes
    (front ++ [file]) back (by rw [hqueue]; simp)
  set before := front.foldl step (env.start disk store) with hbefore
  set after := (front ++ [file]).foldl step (env.start disk store) with hafter
  have hlastStep : after = step before file := by
    rw [hafter, List.foldl_append, ← hbefore]
    rfl
  obtain ⟨hdisk, hstore, -, -, htotal, -⟩ := removeQueuedFile_spec env sizes before file
  rw [← hstep, ← hlastStep] at hdisk hstore htotal
  have hpos := runs_of_exact hexact
  obtain ⟨bound, hbound⟩ := Int.eq_ofNat_of_zero_le hpos.le
  have hbytesBefore : before.disk file.canonicalPath ≠ 0 := by
    rw [hothers file.canonicalPath hfresh]
    exact hbytes
  have hfalls : ∀ first other rest, front = first ++ other :: rest →
      ((first ++ [other]).foldl step (env.start disk store)).total ≤
        (first.foldl step (env.start disk store)).total := by
    intro first other rest _
    rw [List.foldl_append]
    exact total_queued_le sizes _ other
  have habove : (bound : ℤ) < before.total := by omega
  have hstopped : atHighWater bound after = true := by
    simp [atHighWater, hbound]
  have hreduce : env.reduce (reducingTo none bound) bound disk store = after := by
    simp only [reduce, removeFiles, removeEntries, reducingTo]
    rw [hqueue, foldUntil_runs back runs_of_above hfalls habove,
      foldUntil_stopped hstopped, foldUntil_stopped hstopped]
  have hover : (bound : ℤ) < (env.start disk store).total := by
    have hle := @foldl_falls _ _ step Sweep.total (env.start disk store) [] front hfalls
    exact lt_of_lt_of_le habove hle
  obtain ⟨hreal, -⟩ := @realRun_reducingTo _ _ _ env disk store none bound hover
  have htranscripts := (hsound (reducingTo none bound)).transcripts
  rw [hreal, hreduce] at htranscripts
  have hkept : stored ∈ after.store := by
    rw [hworked.store_eq]
    exact mem_stillStored.mpr ⟨hstored, .inr (by simp [Entries.keys])⟩
  have hsame := htranscripts stored hkept _ hpath
  rw [hdisk, diskAfter, hrm, if_pos rfl, Function.update_self] at hsame
  exact hbytes hsame.symm

theorem order_run (hcounted : Counted env disk store) (active : Option JsString)
    (sizes : Path → Option ℕ) {cleared : Sweep Path Body}
    (hworked : Worked env active store [] cleared)
    (hexact : env.deficit cleared = 0)
    (hshrinks : ∀ path, cleared.disk path ≤ disk path) (done rest : Store Body)
    (horder : sweepOrder store = done ++ rest) :
    Worked env active store done (done.foldl (env.removeEntry sizes false active) cleared) ∧
      env.deficit (done.foldl (env.removeEntry sizes false active) cleared) = 0 ∧
      ∀ path, (done.foldl (env.removeEntry sizes false active) cleared).disk path ≤
        disk path := by
  induction done using List.reverseRecOn generalizing rest with
  | nil => exact ⟨hworked, hexact, hshrinks⟩
  | append_singleton done stored ih =>
    have hsplit : sweepOrder store = done ++ stored :: rest := by
      rw [horder]
      simp
    obtain ⟨hworkedBefore, hexactBefore, hshrinksBefore⟩ := ih (stored :: rest) hsplit
    rw [List.foldl_append, List.foldl_cons, List.foldl_nil]
    obtain ⟨hafter, hwhich⟩ := hworkedBefore.round sizes hkeys hsplit
    refine ⟨hafter, ?_, fun path =>
      (disk_round_le sizes hkeys hsplit hworkedBefore path).trans (hshrinksBefore path)⟩
    rcases hwhich with ⟨-, hsame⟩ | ⟨-, hstore, -, file, hreleased⟩
    · rw [hsame]
      exact hexactBefore
    · exact hcounted.released hrm hpaths hkeys hexactBefore hshrinksBefore hsplit
        hworkedBefore hafter hstore hreleased

omit hrm hpaths in
theorem total_round (sizes : Path → Option ℕ) {done rest : Store Body}
    {stored : JsString × SessionEntry Body} {sweep : Sweep Path Body}
    (horder : sweepOrder store = done ++ stored :: rest)
    (hworked : Worked env active store done sweep) :
    (env.removeEntry sizes false active sweep stored).total ≤ sweep.total ∧
      (env.isActive active stored.1 = false →
        (env.removeEntry sizes false active sweep stored).total < sweep.total) := by
  obtain ⟨-, hwhich⟩ := hworked.round sizes hkeys horder
  rcases hwhich with ⟨hyes, hsame⟩ | ⟨-, -, -, file, hreleased⟩
  · rw [hsame]
    exact ⟨le_refl _, fun hno => by rw [hyes] at hno; cases hno⟩
  · have hbytes := @entryBytes_pos _ _ env stored
    have htotal := hreleased.total
    exact ⟨by omega, fun _ => by omega⟩

section

variable (hcounted : Counted env disk store) (hsound : ∀ params, Sound env params disk store)
  {done rest : Store Body} {stored : JsString × SessionEntry Body} {path : Path} (horder :
  sweepOrder store = done ++ stored :: rest) (hlast : IsLast stored rest) (hpath :
  env.resolveSessionTranscriptPathForEntry stored.2 = some path) (hbytes : disk path ≠ 0)

include hcounted hsound horder hlast hpath hbytes

theorem later_of_sound : ∀ other ∈ rest,
      env.resolveSessionTranscriptPathForEntry other.2 ≠ some path := by
  intro other hother hotherPath
  set sizes := env.fileSizesByPath disk with hsizes
  obtain ⟨hclearedWorked, hclearedExact, hclearedShrinks, -⟩ :=
    queue_run hrm hpaths hkeys hcounted none sizes (env.removableFileQueue store) [] (by simp)
  set cleared := (env.removableFileQueue store).foldl
    (env.removeQueuedFile sizes false) (env.start disk store) with hcleared
  set step := env.removeEntry sizes false none with hstep
  have hrun := order_run hrm hpaths hkeys hcounted none sizes hclearedWorked
    hclearedExact hclearedShrinks
  obtain ⟨hworkedBefore, -, -⟩ := hrun done (stored :: rest) horder
  obtain ⟨hworked, hexact, -⟩ := hrun (done ++ [stored]) rest (by rw [horder]; simp)
  set before := done.foldl step cleared with hbefore
  set after := (done ++ [stored]).foldl step cleared with hafter
  have hlastStep : after = step before stored := by
    rw [hafter, List.foldl_append, ← hbefore]
    rfl
  have hlower := (total_round hkeys sizes horder hworkedBefore).2 (isActive_none stored.1)
  rw [← hstep, ← hlastStep] at hlower
  have hpos := runs_of_exact hexact
  obtain ⟨bound, hbound⟩ := Int.eq_ofNat_of_zero_le hpos.le
  have habove : (bound : ℤ) < before.total := by omega
  have hfalls : ∀ first next more, done = first ++ next :: more →
      ((first ++ [next]).foldl step cleared).total ≤ (first.foldl step cleared).total := by
    intro first next more hsplit
    have hfirst : sweepOrder store = first ++ next :: (more ++ stored :: rest) := by
      rw [horder, hsplit]
      simp
    rw [List.foldl_append]
    exact (total_round hkeys sizes hfirst (hrun first _ hfirst).1).1
  have hclearedAbove : (bound : ℤ) < cleared.total :=
    lt_of_lt_of_le habove (@foldl_falls _ _ step Sweep.total cleared [] done hfalls)
  have hqueueFalls : ∀ first next more, env.removableFileQueue store = first ++ next :: more →
      ((first ++ [next]).foldl (env.removeQueuedFile sizes false) (env.start disk store)).total ≤
        (first.foldl (env.removeQueuedFile sizes false) (env.start disk store)).total := by
    intro first next more _
    rw [List.foldl_append]
    exact total_queued_le sizes _ next
  have hqueueRun : foldUntil (atHighWater bound) (env.removeQueuedFile sizes false)
      (env.removableFileQueue store) (env.start disk store) = cleared := by
    have happend := @foldUntil_append _ _ (atHighWater bound)
      (env.removeQueuedFile sizes false) (env.removableFileQueue store) []
      (env.start disk store)
      (by
        intro first next more hsplit
        apply runs_of_above
        have hle := @foldl_falls _ _ (env.removeQueuedFile sizes false) Sweep.total
          (env.start disk store) first (next :: more) (by rwa [← hsplit])
        rw [← hsplit] at hle
        exact lt_of_lt_of_le hclearedAbove hle)
    rw [List.append_nil] at happend
    exact happend
  have hstopped : atHighWater bound after = true := by
    simp [atHighWater, hbound]
  have hreduce : env.reduce (reducingTo none bound) bound disk store = after := by
    simp only [reduce, removeFiles, removeEntries, reducingTo]
    rw [← hsizes, hqueueRun, horder, foldUntil_runs rest runs_of_above hfalls habove,
      foldUntil_stopped hstopped]
  have hover : (bound : ℤ) < (env.start disk store).total :=
    lt_of_lt_of_le hclearedAbove (@foldl_falls _ _ (env.removeQueuedFile sizes false) Sweep.total
        (env.start disk store) [] (env.removableFileQueue store) hqueueFalls)
  obtain ⟨hreal, -⟩ := @realRun_reducingTo _ _ _ env disk store none bound hover
  have htranscripts := (hsound (reducingTo none bound)).transcripts
  rw [hreal, hreduce] at htranscripts
  have hkept : other ∈ after.store := by
    obtain ⟨middle, more, hrest⟩ := List.append_of_mem hother
    have hplace : sweepOrder store = ((done ++ [stored]) ++ middle) ++ other :: more := by
      rw [horder, hrest]
      simp
    have hmem := mem_stillStored.mp (@mem_of_order _ _ env none _ _ _ _ hkeys hplace)
    rw [hworked.store_eq]
    refine mem_stillStored.mpr ⟨hmem.1, .inr fun hdone => ?_⟩
    rw [isActive_none] at hmem
    apply hmem.2.resolve_left (by simp)
    rw [Entries.keys, List.map_append]
    exact List.mem_append_left _ hdone
  have hsame := htranscripts other hkept path hotherPath
  obtain ⟨-, hwhich⟩ := hworkedBefore.round sizes hkeys horder
  have hnot := hworked.not_shared horder hlast fun member _ _ =>
    isActive_none member.1
  rcases hwhich with ⟨hyes, -⟩ | ⟨-, -, -, file, hreleased⟩
  · rw [isActive_none] at hyes
    cases hyes
  · rw [← hstep, ← hlastStep] at hreleased
    cases hfile : file with
    | none =>
      obtain ⟨member, hmember, hsession⟩ := hreleased.shared hfile path hpath
      exact hnot member hmember hsession
    | some removed =>
      have hresolved := (hreleased.last removed hfile).1
      rw [hpath, Option.some.injEq] at hresolved
      rw [hreleased.disk, hfile, diskWithout, Option.elim_some, ← hresolved,
        diskAfter, hrm, if_pos rfl, Function.update_self] at hsame
      exact hbytes hsame.symm

theorem earlier_of_sound : ∀ other ∈ done,
      env.resolveSessionTranscriptPathForEntry other.2 = some path →
      other.2.session ≠ stored.2.session →
      env.isActive (some other.1) other.1 = true →
        ∃ member ∈ store, member.2.session = stored.2.session ∧
          env.isActive (some other.1) member.1 = true := by
  intro other hother hotherPath hsession hactive
  by_contra hnone
  have hinactive : ∀ member ∈ store, member.2.session = stored.2.session →
      env.isActive (some other.1) member.1 = false := by
    intro member hmember hsame
    by_contra hyes
    exact hnone ⟨member, hmember, hsame, by simpa using hyes⟩
  have hstart := runs_of_exact (@start_deficit _ _ _ env store disk hpaths)
  obtain ⟨hreal, -⟩ := @realRun_reducingTo _ _ _ env disk store (some other.1) 0
    (by simpa using hstart)
  obtain ⟨-, -, -, -, -, ⟨hexact, -⟩, -⟩ := @reduce_induct _ _ _ env store 0 disk
    (reducingTo (some other.1) 0) rfl hkeys
    (fun _ sweep => env.deficit sweep = 0 ∧ ∀ path, sweep.disk path ≤ disk path)
    (fun _ sweep => env.deficit sweep = 0 ∧ ∀ path, sweep.disk path ≤ disk path)
    ⟨start_deficit hpaths, fun path => le_refl _⟩
    (by
      rintro front file back sweep hqueue - hworked - ⟨hzero, hshrinks⟩
      refine ⟨hcounted.queued hrm hpaths hzero hshrinks (by rw [hqueue]; simp), ?_⟩
      intro path
      rw [(removeQueuedFile_spec env _ sweep file).1]
      exact (diskAfter_le file.canonicalPath path _).trans (hshrinks path))
    (fun _ _ _ _ _ hboth => hboth)
    (by
      rintro front next back sweep hsplit - hworked - ⟨hzero, hshrinks⟩
      obtain ⟨hafter, hwhich⟩ := hworked.round (env.fileSizesByPath disk) hkeys hsplit
      refine ⟨?_, fun path => (disk_round_le _ hkeys hsplit hworked path).trans (hshrinks path)⟩
      rcases hwhich with ⟨-, hsame⟩ | ⟨-, hstore, -, file, hreleased⟩
      · simp only [reducingTo] at hsame ⊢
        rw [hsame]
        exact hzero
      · exact hcounted.released hrm hpaths hkeys hzero hshrinks hsplit hworked
          hafter hstore hreleased)
  have hgone := (exhausted hrm hpaths hkeys rfl hexact).2 done stored rest path
    horder hlast hinactive hpath
  have hsoundActive := hsound (reducingTo (some other.1) 0)
  have hotherStore : other ∈ store := by
    rw [← (sweepOrder_perm store).mem_iff, horder]
    exact List.mem_append_left _ hother
  have hkept := hsoundActive.active other hotherStore hactive
  have hsame := hsoundActive.transcripts other hkept path hotherPath
  rw [hreal, hgone] at hsame
  exact hbytes hsame.symm

end

theorem separate_of_sound (hsound : ∀ params, Sound env params disk store) :
    Separate env disk store := by
  have hcounted := counted_of_sound hrm hpaths hkeys hsound
  constructor
  case toCounted => exact hcounted
  case archives => exact archives_of_sound hrm hpaths hkeys hcounted hsound
  case shared =>
    intro done stored rest path horder hlast hpath hbytes
    constructor
    · exact later_of_sound hrm hpaths hkeys hcounted hsound horder hlast hpath hbytes
    · exact earlier_of_sound hrm hpaths hkeys hcounted hsound horder hlast hpath hbytes

end Needed

def namedTranscripts : SweepEnv JsString JsString where
  toLowerCase := id
  propertyText key entry := (js "  \"" ++ key ++ js "\": \"" ++ entry.body ++
    js "\"").map UInt16.toUInt8
  resolveSessionFilePath entry := some entry.body
  rm _ := true
  files :=
    [⟨js "sessions.json", js "sessions.json", 0⟩, ⟨js "shared.jsonl", js "shared.jsonl", 1⟩]
  storePath := js "sessions.json"

def hundredBytes (path : JsString) : ℕ :=
  if path = js "shared.jsonl" then 100 else 0

def oneSession : Store JsString := [(js "first", ⟨some (js "one"), some 1, js "shared.jsonl"⟩)]

def twoSessions : Store JsString :=
  [(js "first", ⟨some (js "one"), some 1, js "shared.jsonl"⟩),
    (js "second", ⟨some (js "two"), some 2, js "shared.jsonl"⟩)]

end SweepEnv

end LittleBaby.DiskBudget
