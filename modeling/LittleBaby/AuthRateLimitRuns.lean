import LittleBaby.AuthRateLimit

/-!
# Runs of the authentication limiter

What an entry knows of the failures since the last reset of its key, and what follows for
the windows and the locks of a run.
-/

namespace LittleBaby.AuthRateLimit

open JsString IpRanges SlidingWindow Operation LabelledMachine

variable (host : Host) (config : RateLimitConfig)

/-! ## What an entry knows -/

def attemptsOf (entry : Option RateLimitEntry) : List ℚ := entry.elim [] (·.attempts)

def lockOf (entry : Option RateLimitEntry) : Option ℚ := entry.bind (·.lock)

structure Counts (failures : List ℚ) (clock : ℚ) (entry : Option RateLimitEntry) : Prop where
  window : ∀ now, clock ≤ now →
    slide config.windowMs now (attemptsOf entry) = slide config.windowMs now failures
  lock : ∀ lockedUntil, lockOf entry = some lockedUntil →
    ∀ time ∈ failures, time + config.lockoutMs ≤ lockedUntil

structure Open (clock : ℚ) (entry : Option RateLimitEntry) : Prop where
  unlocked : lockOf entry = none
  free : ((slide config.windowMs clock (attemptsOf entry)).length : ℚ) < config.maxAttempts

variable {config}

variable {failures : List ℚ} {clock now : ℚ} {entry : Option RateLimitEntry}

theorem Counts.mono (hcounts : Counts config failures clock entry) (hnow : clock ≤ now) :
    Counts config failures now entry where
  window := fun later hlater => hcounts.window later (hnow.trans hlater)
  lock := hcounts.lock

theorem counts_empty (clock : ℚ) : Counts config [] clock none where
  window := fun _ _ => rfl
  lock := fun _ _ _ hmem => absurd hmem List.not_mem_nil

theorem counts_slideWindow {entry : RateLimitEntry}
    (hcounts : Counts config failures clock (some entry)) (hnow : clock ≤ now) :
    Counts config failures now (some (slideWindow config entry now)) where
  window := by
    intro later hlater
    have hwindow := hcounts.window later (hnow.trans hlater)
    exact (slide_slide hlater _).trans hwindow
  lock := hcounts.lock

variable {lockedUntil : ℚ}

theorem slide_expired (hconfig : config.windowMs ≤ config.lockoutMs)
    (hcounts : Counts config failures clock entry) (hlock : lockOf entry = some lockedUntil)
    (hexpired : lockedUntil ≤ now) : slide config.windowMs now failures = [] := by
  apply slide_eq_nil
  intro time hmem
  have hafter := hcounts.lock lockedUntil hlock time hmem
  linarith

theorem lockOf_clearLock (entry : RateLimitEntry) : lockOf (some (clearLock entry)) = none := by
  unfold clearLock
  by_cases hlock : entry.lock.isSome = true
  · rw [if_pos hlock]
    rfl
  · rw [if_neg hlock]
    exact Option.not_isSome_iff_eq_none.mp hlock

section

variable {failures : List ℚ} {clock now : ℚ} {entry : RateLimitEntry} (hconfig : config.windowMs ≤
  config.lockoutMs) (hcounts : Counts config failures clock (some entry)) (hnow : clock ≤ now)

include hconfig hcounts hnow

theorem counts_clearLock
    (hexpired : ∀ lockedUntil, entry.lock = some lockedUntil → lockedUntil ≤ now) :
    Counts config failures now (some (clearLock entry)) := by
  unfold clearLock
  by_cases hlock : entry.lock.isSome = true
  · rw [if_pos hlock]
    obtain ⟨lockedUntil, hsome⟩ := Option.isSome_iff_exists.mp hlock
    constructor
    · intro later hlater
      rw [slide_expired hconfig hcounts hsome ((hexpired _ hsome).trans hlater)]
      rfl
    · intro other hother
      cases hother
  · rw [if_neg hlock]
    exact hcounts.mono hnow

theorem checkEntry_counts : Counts config failures now (some (checkEntry config entry now).2) := by
  unfold checkEntry
  cases hlock : entry.lock.filter fun lockedUntil => now < lockedUntil with
  | some lockedUntil => exact hcounts.mono hnow
  | none =>
    have hexpired : ∀ lockedUntil, entry.lock = some lockedUntil → lockedUntil ≤ now := by
      intro lockedUntil hsome
      rw [hsome, Option.filter_eq_none_iff] at hlock
      simpa using hlock lockedUntil rfl
    exact counts_slideWindow (counts_clearLock hconfig hcounts hnow hexpired) le_rfl

end

theorem checkEntry_open {entry : RateLimitEntry}
    (hallowed : (checkEntry config entry now).1.allowed = true) :
    Open config now (some (checkEntry config entry now).2) := by
  unfold checkEntry at hallowed ⊢
  cases hlock : entry.lock.filter fun lockedUntil => now < lockedUntil with
  | some lockedUntil =>
    simp [hlock] at hallowed
  | none =>
    simp only [hlock, decide_eq_true_eq, lt_sup_iff, lt_self_iff_false, false_or,
      sub_pos] at hallowed
    constructor
    · exact lockOf_clearLock entry
    · have hslid : slide config.windowMs now
            (slide config.windowMs now (clearLock entry).attempts) =
          slide config.windowMs now (clearLock entry).attempts :=
        slide_slide (le_refl now) _
      simp [attemptsOf, slideWindow] at hallowed ⊢
      rw [hslid]
      exact hallowed

theorem pruneEntry_counts {entry : RateLimitEntry}
    (hcounts : Counts config failures clock (some entry)) (hnow : clock ≤ now) :
    Counts config failures now (pruneEntry config entry now) := by
  unfold pruneEntry
  by_cases hlocked : entry.isLocked now = true
  · rw [if_pos hlocked]
    exact hcounts.mono hnow
  · rw [if_neg hlocked]
    have hslid := counts_slideWindow hcounts hnow
    by_cases hnone : (slideWindow config entry now).attempts = []
    · rw [if_pos hnone]
      constructor
      · intro later hlater
        rw [← hslid.window later hlater]
        simp [attemptsOf, hnone]
      · intro lockedUntil hlock
        cases hlock
    · rw [if_neg hnone]
      exact hslid

theorem recordEntry_eq (hopen : Open config clock entry) :
    recordEntry config (entry.getD { attempts := [], lockedUntil := none }) now =
      let attempts := slide config.windowMs now (attemptsOf entry) ++ [now]
      if config.maxAttempts ≤ attempts.length then
        { attempts, lockedUntil := some (now + config.lockoutMs) }
      else { entry.getD { attempts := [], lockedUntil := none } with attempts } := by
  unfold recordEntry RateLimitEntry.isLocked
  cases entry with
  | none => rfl
  | some entry =>
    have hunlocked : entry.lock = none := hopen.unlocked
    simp only [Option.getD_some, hunlocked, Option.any_none, Bool.false_eq_true, if_false]
    rfl

theorem recordEntry_counts (hcounts : Counts config failures clock entry) (hnow : clock ≤ now)
    (hpast : ∀ time ∈ failures, time ≤ now) (hopen : Open config clock entry) :
    Counts config (failures ++ [now]) now
      (some (recordEntry config (entry.getD { attempts := [], lockedUntil := none }) now)) := by
  rw [recordEntry_eq hopen]
  have hwindow : ∀ later, now ≤ later →
      slide config.windowMs later (slide config.windowMs now (attemptsOf entry) ++ [now]) =
        slide config.windowMs later (failures ++ [now]) := by
    intro later hlater
    rw [slide_append, slide_append, slide_slide hlater, hcounts.window later (hnow.trans hlater)]
  simp only
  split_ifs
  · refine ⟨hwindow, ?_⟩
    intro lockedUntil hlock time hmem
    have hfilter : (some (now + config.lockoutMs)).filter (· ≠ 0) = some lockedUntil := hlock
    rw [Option.filter_eq_some_iff, Option.some.injEq] at hfilter
    rw [List.mem_append, List.mem_singleton] at hmem
    have hle : time ≤ now := by
      rcases hmem with hold | rfl
      · exact hpast time hold
      · exact le_rfl
    linarith
  · refine ⟨hwindow, ?_⟩
    intro lockedUntil hlock
    have hunlocked := hopen.unlocked
    cases entry with
    | none => cases hlock
    | some entry =>
      have hnone : lockOf (some entry) = some lockedUntil := hlock
      rw [hunlocked] at hnone
      cases hnone

/-! ## Steps -/

def isLimited (host : Host) (config : RateLimitConfig) (rawIp : Option JsString) : Bool :=
  !isExempt host config (normalizeRateLimitClientIp host rawIp)

variable (config)

def Operation.failureFor (key : JsString) : Operation → Option ℚ
  | recordFailure rawIp rawScope now =>
    if resolveKey host rawIp rawScope = key ∧ isLimited host config rawIp then some now
    else none
  | _ => none

def Operation.resets (key : JsString) : Operation → Bool
  | reset rawIp rawScope _ => resolveKey host rawIp rawScope == key
  | _ => false

def failuresAfter (key : JsString) (failures : List ℚ) (operation : Operation) : List ℚ :=
  if operation.resets host key then []
  else failures ++ (operation.failureFor host config key).toList

structure Tracked (key : JsString) (failures : List ℚ) (state : State) : Prop where
  nonneg : 0 ≤ state.clock
  past : ∀ time ∈ failures, time ≤ state.clock
  atMost : AtMost ⌈config.maxAttempts⌉₊ config.windowMs failures
  counts : Counts config failures state.clock (state.entries key)
  allowed : ∀ rawIp rawScope, state.allowed = some (rawIp, rawScope) →
    resolveKey host rawIp rawScope = key → isLimited host config rawIp = true →
      Open config state.clock (state.entries key)

variable {host config}

theorem tracked_start (key : JsString) : Tracked host config key [] {} where
  nonneg := le_rfl
  past := fun _ hmem => absurd hmem List.not_mem_nil
  atMost := AtMost.nil _ _
  counts := counts_empty _
  allowed := by
    intro rawIp rawScope hallowed
    cases hallowed

theorem check_entry (host : Host) (config : RateLimitConfig) (entries : Entries)
    (rawIp rawScope : Option JsString) (now : ℚ) (key : JsString) :
    (check host config entries rawIp rawScope now).2 key = entries key ∨
      ∃ entry, entries key = some entry ∧ (check host config entries rawIp rawScope now).2 key =
          some (checkEntry config entry now).2 := by
  simp only [check]
  split_ifs
  · exact .inl rfl
  · cases hentry : entries (resolveKey host rawIp rawScope) with
    | none => exact .inl rfl
    | some entry =>
      by_cases hkey : key = resolveKey host rawIp rawScope
      · right
        subst hkey
        exact ⟨entry, hentry, Function.update_self _ _ _⟩
      · left
        exact Function.update_of_ne hkey _ _

variable {rawIp rawScope : Option JsString}

theorem check_open {entries : Entries}
    (hpositive : 0 < config.maxAttempts) (hlimited : isLimited host config rawIp = true)
    (hallowed : (check host config entries rawIp rawScope now).1.allowed = true) :
    Open config now ((check host config entries rawIp rawScope now).2
      (resolveKey host rawIp rawScope)) := by
  have hnotExempt : ¬isExempt host config (normalizeRateLimitClientIp host rawIp) = true := by
    simpa [isLimited] using hlimited
  simp only [check] at hallowed ⊢
  rw [if_neg hnotExempt] at hallowed ⊢
  cases hentry : entries (resolveKey host rawIp rawScope) with
  | none =>
    simp only [hentry]
    exact ⟨rfl, by simpa [attemptsOf, slide] using hpositive⟩
  | some entry =>
    simp only [hentry] at hallowed
    simp only [Function.update_self]
    exact checkEntry_open hallowed

theorem recordFailure_entry {entries : Entries} (key : JsString) :
    recordFailure host config entries rawIp rawScope now key =
      if resolveKey host rawIp rawScope = key ∧ isLimited host config rawIp = true then
        some (recordEntry config ((entries key).getD { attempts := [], lockedUntil := none }) now)
      else entries key := by
  simp only [recordFailure, isLimited]
  by_cases hexempt : isExempt host config (normalizeRateLimitClientIp host rawIp) = true
  · simp [hexempt]
  · by_cases hkey : resolveKey host rawIp rawScope = key
    · subst hkey
      simp [hexempt]
    · simp [hexempt, hkey, Function.update_of_ne (Ne.symm hkey)]

variable {state next : State} {operation : Operation}

theorem step_clock (hstep : step host config state operation = some next) :
    state.clock ≤ operation.now ∧ next.clock = operation.now := by
  unfold step at hstep
  by_cases hlate : operation.now < state.clock
  · rw [if_pos hlate] at hstep
    cases hstep
  · rw [if_neg hlate] at hstep
    refine ⟨not_lt.mp hlate, ?_⟩
    cases operation with
    | check rawIp rawScope now =>
      cases hstep
      rfl
    | recordFailure rawIp rawScope now =>
      by_cases hallowed : state.allowed = some (rawIp, rawScope)
      · simp only [if_pos hallowed, Option.some.injEq] at hstep
        rw [← hstep]
        rfl
      · simp only [if_neg hallowed] at hstep
        cases hstep
    | reset rawIp rawScope now =>
      cases hstep
      rfl
    | prune now =>
      cases hstep
      rfl

section Step

variable {key : JsString} {failures : List ℚ} {state : State} {now : ℚ}

theorem Tracked.past_of_le (htracked : Tracked host config key failures state)
    (hnow : state.clock ≤ now) : ∀ time ∈ failures, time ≤ now :=
  fun time hmem => (htracked.past time hmem).trans hnow

theorem tracked_check (hpositive : 0 < config.maxAttempts)
    (hconfig : config.windowMs ≤ config.lockoutMs) (rawIp rawScope : Option JsString)
    (htracked : Tracked host config key failures state) (hnow : state.clock ≤ now) :
    Tracked host config key failures
      { entries := (check host config state.entries rawIp rawScope now).2
        clock := now
        allowed :=
          if (check host config state.entries rawIp rawScope now).1.allowed then
            some (rawIp, rawScope)
          else none } := by
  refine ⟨htracked.nonneg.trans hnow, htracked.past_of_le hnow, htracked.atMost, ?_, ?_⟩
  · have hcounts := htracked.counts
    rcases check_entry host config state.entries rawIp rawScope now key with
      hkept | ⟨entry, hentry, hchecked⟩
    · simp only [hkept]
      exact hcounts.mono hnow
    · simp only [hchecked]
      rw [hentry] at hcounts
      exact checkEntry_counts hconfig hcounts hnow
  · intro ip scope hallowed hkey hlimited
    split_ifs at hallowed with hopen
    obtain ⟨rfl, rfl⟩ := hallowed
    subst hkey
    exact check_open hpositive hlimited hopen

theorem tracked_recordFailure
    (htracked : Tracked host config key failures state) (hnow : state.clock ≤ now)
    (hallowed : state.allowed = some (rawIp, rawScope)) :
    Tracked host config key
      (failuresAfter host config key failures (.recordFailure rawIp rawScope now))
      { entries := recordFailure host config state.entries rawIp rawScope now
        clock := now
        allowed := none } := by
  have hpast := htracked.past_of_le hnow
  by_cases hkey : resolveKey host rawIp rawScope = key ∧ isLimited host config rawIp = true
  · have hopen := htracked.allowed rawIp rawScope hallowed hkey.1 hkey.2
    have hadded : failuresAfter host config key failures
        (.recordFailure rawIp rawScope now) = failures ++ [now] := by
      simp [failuresAfter, resets, failureFor, hkey]
    rw [hadded]
    refine ⟨htracked.nonneg.trans hnow, ?_, ?_, ?_, fun ip scope hsome => by cases hsome⟩
    · intro time hmem
      rw [List.mem_append, List.mem_singleton] at hmem
      rcases hmem with hold | rfl
      · exact hpast time hold
      · exact le_rfl
    · apply htracked.atMost.append
      have hfree := hopen.free
      rw [htracked.counts.window state.clock le_rfl, ← Nat.lt_ceil] at hfree
      exact lt_of_le_of_lt (length_slide_le_of_le hnow _) hfree
    · simp only [recordFailure_entry, if_pos hkey]
      exact recordEntry_counts htracked.counts hnow hpast hopen
  · have hsame : failuresAfter host config key failures
        (.recordFailure rawIp rawScope now) = failures := by
      simp [failuresAfter, resets, failureFor, hkey]
    rw [hsame]
    refine ⟨htracked.nonneg.trans hnow, hpast, htracked.atMost, ?_,
      fun ip scope hsome => by cases hsome⟩
    simp only [recordFailure_entry, if_neg hkey]
    exact htracked.counts.mono hnow

theorem tracked_reset (rawIp rawScope : Option JsString)
    (htracked : Tracked host config key failures state) (hnow : state.clock ≤ now) :
    Tracked host config key (failuresAfter host config key failures (.reset rawIp rawScope now))
      { entries := reset host state.entries rawIp rawScope, clock := now, allowed := none } := by
  by_cases hkey : resolveKey host rawIp rawScope = key
  · have hnil : failuresAfter host config key failures (.reset rawIp rawScope now) = [] := by
      simp [failuresAfter, resets, hkey]
    rw [hnil]
    refine ⟨htracked.nonneg.trans hnow, fun _ hmem => absurd hmem List.not_mem_nil,
      AtMost.nil _ _, ?_, fun ip scope hsome => by cases hsome⟩
    subst hkey
    simp only [reset, Function.update_self]
    exact counts_empty _
  · have hsame : failuresAfter host config key failures (.reset rawIp rawScope now) =
        failures := by
      simp [failuresAfter, resets, failureFor, hkey]
    rw [hsame]
    refine ⟨htracked.nonneg.trans hnow, htracked.past_of_le hnow, htracked.atMost, ?_,
      fun ip scope hsome => by cases hsome⟩
    simp only [reset, Function.update_of_ne (Ne.symm hkey)]
    exact htracked.counts.mono hnow

theorem tracked_prune (htracked : Tracked host config key failures state)
    (hnow : state.clock ≤ now) :
    Tracked host config key failures
      { entries := prune config state.entries now, clock := now, allowed := none } := by
  refine ⟨htracked.nonneg.trans hnow, htracked.past_of_le hnow, htracked.atMost, ?_,
    fun ip scope hsome => by cases hsome⟩
  have hcounts := htracked.counts
  cases hentry : state.entries key with
  | none =>
    simp only [prune, hentry, Option.bind_none]
    rw [hentry] at hcounts
    exact hcounts.mono hnow
  | some entry =>
    simp only [prune, hentry, Option.bind_some]
    rw [hentry] at hcounts
    exact pruneEntry_counts hcounts hnow

end Step

variable {key : JsString}

theorem step_tracked (hpositive : 0 < config.maxAttempts)
    (hconfig : config.windowMs ≤ config.lockoutMs)
    (htracked : Tracked host config key failures state)
    (hstep : step host config state operation = some next) :
    Tracked host config key (failuresAfter host config key failures operation) next := by
  have hnow := (step_clock hstep).1
  unfold step at hstep
  rw [if_neg (not_lt.mpr hnow)] at hstep
  cases operation with
  | check rawIp rawScope now =>
    cases hstep
    have hsame : failuresAfter host config key failures (.check rawIp rawScope now) =
        failures := by
      simp [failuresAfter, resets, failureFor]
    rw [hsame]
    exact tracked_check hpositive hconfig rawIp rawScope htracked hnow
  | recordFailure rawIp rawScope now =>
    by_cases hallowed : state.allowed = some (rawIp, rawScope)
    · simp only [if_pos hallowed, Option.some.injEq] at hstep
      rw [← hstep]
      exact tracked_recordFailure htracked hnow hallowed
    · simp only [if_neg hallowed] at hstep
      cases hstep
  | reset rawIp rawScope now =>
    cases hstep
    exact tracked_reset rawIp rawScope htracked hnow
  | prune now =>
    cases hstep
    have hsame : failuresAfter host config key failures (.prune now) = failures := by
      simp [failuresAfter, resets, failureFor]
    rw [hsame]
    exact tracked_prune htracked hnow

def LockedUntil (key : JsString) (lockedUntil : ℚ) (state : State) : Prop :=
  lockOf (state.entries key) = some lockedUntil

theorem isLocked_of_lock {entry : RateLimitEntry}
    (hlock : entry.lock = some lockedUntil) (hearly : now < lockedUntil) :
    entry.isLocked now = true := by
  unfold RateLimitEntry.isLocked
  rw [hlock]
  simpa using hearly

theorem checkEntry_of_lock {entry : RateLimitEntry}
    (hlock : entry.lock = some lockedUntil) (hearly : now < lockedUntil) :
    checkEntry config entry now =
      ({ allowed := false, remaining := 0, retryAfterMs := lockedUntil - now }, entry) := by
  unfold checkEntry
  have hfilter : (entry.lock.filter fun lockedUntil => now < lockedUntil) = some lockedUntil := by
    rw [hlock, Option.filter_eq_some_iff]
    exact ⟨rfl, by simpa using hearly⟩
  rw [hfilter]

theorem step_locked (hlocked : LockedUntil key lockedUntil state)
    (hearly : operation.now < lockedUntil) (hkept : operation.resets host key = false)
    (hstep : step host config state operation = some next) :
    LockedUntil key lockedUntil next := by
  have hnow := (step_clock hstep).1
  unfold LockedUntil at hlocked ⊢
  obtain ⟨entry, hentry, hlock⟩ := Option.bind_eq_some_iff.mp hlocked
  unfold step at hstep
  rw [if_neg (not_lt.mpr hnow)] at hstep
  cases operation with
  | check rawIp rawScope now =>
    cases hstep
    rcases check_entry host config state.entries rawIp rawScope now key with
      hsame | ⟨other, hother, hchecked⟩
    · simp only [hsame]
      exact hlocked
    · have hbefore : now < lockedUntil := hearly
      cases hentry.symm.trans hother
      rw [checkEntry_of_lock hlock hbefore] at hchecked
      simp only [hchecked]
      exact hlock
  | recordFailure rawIp rawScope now =>
    by_cases hallowed : state.allowed = some (rawIp, rawScope)
    · simp only [if_pos hallowed, Option.some.injEq] at hstep
      have hbefore : now < lockedUntil := hearly
      rw [← hstep]
      simp [recordFailure_entry, hentry, recordEntry, isLocked_of_lock hlock hbefore]
      exact hlock
    · simp only [if_neg hallowed] at hstep
      cases hstep
  | reset rawIp rawScope now =>
    cases hstep
    have hkey : resolveKey host rawIp rawScope ≠ key := by
      simpa [resets] using hkept
    simp only [reset, Function.update_of_ne (Ne.symm hkey)]
    exact hlocked
  | prune now =>
    have hbefore : now < lockedUntil := hearly
    cases hstep
    simp only [prune, hentry, Option.bind_some, pruneEntry, isLocked_of_lock hlock hbefore, if_true]
    exact hlock

theorem check_locked (hlocked : LockedUntil key lockedUntil state)
    (hkey : resolveKey host rawIp rawScope = key) (hlimited : isLimited host config rawIp = true)
    (hearly : now < lockedUntil) :
    (check host config state.entries rawIp rawScope now).1.allowed = false := by
  have hnotExempt : ¬isExempt host config (normalizeRateLimitClientIp host rawIp) = true := by
    simpa [isLimited] using hlimited
  obtain ⟨entry, hentry, hlock⟩ := Option.bind_eq_some_iff.mp hlocked
  subst hkey
  simp only [check]
  rw [if_neg hnotExempt]
  simp only [hentry, checkEntry_of_lock hlock hearly]

theorem step_locks (hlockout : 0 < config.lockoutMs)
    (htracked : Tracked host config key failures state)
    (hkey : resolveKey host rawIp rawScope = key) (hlimited : isLimited host config rawIp = true)
    (hstep : step host config state (.recordFailure rawIp rawScope now) = some next)
    (hfull : config.maxAttempts ≤ (within config.windowMs now (failures ++ [now])).length) :
    LockedUntil key (now + config.lockoutMs) next := by
  have hlate := not_lt.mpr (step_clock hstep).1
  have hnow : state.clock ≤ now := (step_clock hstep).1
  have hpast := htracked.nonneg.trans hnow
  unfold step at hstep
  rw [if_neg hlate] at hstep
  by_cases hallowed : state.allowed = some (rawIp, rawScope)
  · simp only [if_pos hallowed, Option.some.injEq] at hstep
    have hopen := htracked.allowed rawIp rawScope hallowed hkey hlimited
    have hcount : config.maxAttempts ≤
        (slide config.windowMs now (attemptsOf (state.entries key)) ++ [now]).length := by
      have hwindow := htracked.counts.window now hnow
      have hshort := length_within_le_slide config.windowMs now (failures ++ [now])
      have hlast : (slide config.windowMs now [now]).length ≤ 1 := List.length_filter_le _ _
      rw [slide_append, List.length_append] at hshort
      rw [hwindow, List.length_append, List.length_singleton]
      have hcast : (within config.windowMs now (failures ++ [now])).length ≤
          (slide config.windowMs now failures).length + 1 := by
        omega
      exact hfull.trans (by exact_mod_cast hcast)
    rw [← hstep]
    unfold LockedUntil
    simp [recordFailure_entry, hkey, hlimited]
    rw [recordEntry_eq hopen]
    rw [if_pos hcount]
    have hpositive : now + config.lockoutMs ≠ 0 := by
      linarith
    have hfilter : (some (now + config.lockoutMs)).filter (· ≠ 0) =
        some (now + config.lockoutMs) := by
      simp [Option.filter, hpositive]
    exact hfilter
  · simp only [if_neg hallowed] at hstep
    cases hstep

/-! ## Whole runs -/

def failuresOf (host : Host) (config : RateLimitConfig) (key : JsString)
    (operations : List Operation) : List ℚ :=
  operations.filterMap (failureFor host config key)

variable {operations : List Operation}

theorem foldl_failuresAfter
    (hkept : ∀ operation ∈ operations, operation.resets host key = false) (failures : List ℚ) :
    operations.foldl (failuresAfter host config key) failures =
      failures ++ failuresOf host config key operations := by
  induction operations generalizing failures with
  | nil => simp [failuresOf]
  | cons operation rest ih =>
    rw [List.forall_mem_cons] at hkept
    have hadded : failuresAfter host config key failures operation =
        failures ++ (operation.failureFor host config key).toList := by
      simp [failuresAfter, hkept.1]
    rw [List.foldl_cons, hadded, ih hkept.2, failuresOf, failuresOf, List.append_assoc]
    congr 1
    cases hfailure : operation.failureFor host config key with
    | none => simp [hfailure]
    | some time => simp [hfailure]

variable {final : State}

theorem run_tracked (hpositive : 0 < config.maxAttempts)
    (hconfig : config.windowMs ≤ config.lockoutMs)
    (htracked : Tracked host config key failures state)
    (hrun : run (step host config) state operations = some final) :
    Tracked host config key (operations.foldl (failuresAfter host config key) failures)
      final := by
  induction operations generalizing state failures with
  | nil =>
    cases hrun
    exact htracked
  | cons operation rest ih =>
    obtain ⟨next, hstep, hrest⟩ := run_cons_eq_some.mp hrun
    exact ih (step_tracked hpositive hconfig htracked hstep) hrest

theorem run_clock (hrun : run (step host config) state operations = some final) :
    state.clock ≤ final.clock := by
  induction operations generalizing state with
  | nil =>
    cases hrun
    exact le_rfl
  | cons operation rest ih =>
    obtain ⟨next, hstep, hrest⟩ := run_cons_eq_some.mp hrun
    obtain ⟨hnow, hclock⟩ := step_clock hstep
    rw [← hclock] at hnow
    exact hnow.trans (ih hrest)

theorem run_locked (hlocked : LockedUntil key lockedUntil state)
    (hkept : ∀ operation ∈ operations, operation.resets host key = false)
    (hearly : final.clock < lockedUntil)
    (hrun : run (step host config) state operations = some final) :
    LockedUntil key lockedUntil final := by
  induction operations generalizing state with
  | nil =>
    cases hrun
    exact hlocked
  | cons operation rest ih =>
    rw [List.forall_mem_cons] at hkept
    obtain ⟨next, hstep, hrest⟩ := run_cons_eq_some.mp hrun
    have hbefore : operation.now < lockedUntil := by
      have hclock := run_clock hrest
      rw [(step_clock hstep).2] at hclock
      exact lt_of_le_of_lt hclock hearly
    exact ih (step_locked hlocked hbefore hkept.1 hstep) hkept.2 hrest

def exampleHost : Host where
  ipaddr := dottedLibrary
  toLowerCase := fun text => text.map fun unit =>
    if 0x41 ≤ unit ∧ unit ≤ 0x5A then unit + 0x20 else unit
  isLoopbackRange := fun address =>
    match address with
    | .ipv4 value => value >>> 24 == 127
    | .ipv6 value _ => value == 1

def exampleConfig : RateLimitConfig where
  maxAttempts := 2
  windowMs := 10
  lockoutMs := 10
  exemptLoopback := true

def threeFailures : List Operation :=
  [.check (some (js "10.0.0.5")) none 0, .recordFailure (some (js "10.0.0.5")) none 0,
    .check (some (js "10.0.0.5")) none 10, .recordFailure (some (js "10.0.0.5")) none 10,
    .check (some (js "10.0.0.5")) none 10, .recordFailure (some (js "10.0.0.5")) none 10]

theorem threeFailures_runs :
    (run (step exampleHost exampleConfig) {} ([] ++ threeFailures)).isSome =
      true := by
  decide +kernel

def threeFailuresEnd : State :=
  (run (step exampleHost exampleConfig) {} ([] ++ threeFailures)).get
    threeFailures_runs

end LittleBaby.AuthRateLimit
