import LittleBaby.Entries
import LittleBaby.LabelledMachine
import Mathlib.Algebra.Order.Group.Int
import Mathlib.Data.List.DropRight

/-!
# Inbound messages are claimed once

A message is claimed while it is handled and then committed to a cache, which forgets keys by
age and by number.  A claim is answered as a plain list of the last commits says.
-/

namespace LittleBaby.InboundDedupe

open Entries LabelledMachine

variable {Key : Type*} [DecidableEq Key]

structure DedupeCacheOptions where
  ttlMs : ℤ
  maxSize : ℤ

variable (options : DedupeCacheOptions)

/-- `pruneMapToMaxSize` -/
def keepLast (cache : List (Key × ℤ)) : List (Key × ℤ) := cache.rtake options.maxSize.toNat

/-- The deleted key is set behind all others. -/
def touch (key : Key) (now : ℤ) (cache : List (Key × ℤ)) : List (Key × ℤ) :=
  erase key cache ++ [(key, now)]

def isExpired (now time : ℤ) : Bool :=
  0 < max 0 options.ttlMs && max 0 options.ttlMs ≤ now - time

def prune (now : ℤ) (cache : List (Key × ℤ)) : List (Key × ℤ) :=
  let ttlMs := max 0 options.ttlMs
  keepLast options
    (if 0 < ttlMs then cache.filter fun entry => ¬ entry.2 < now - ttlMs else cache)

def hasUnexpired (key : Key) (now : ℤ) (touchOnRead : Bool) (cache : List (Key × ℤ)) :
    Bool × List (Key × ℤ) :=
  match cache.lookup key with
  | none => (false, cache)
  | some existing =>
    if isExpired options now existing then (false, erase key cache)
    else (true, if touchOnRead then touch key now cache else cache)

def check (key : Key) (now : ℤ) (cache : List (Key × ℤ)) : Bool × List (Key × ℤ) :=
  let (found, cache) := hasUnexpired options key now true cache
  if found then (true, cache) else (false, prune options now (touch key now cache))

inductive ClaimResult where
  | invalid
  | duplicate
  | inflight
  | claimed
  deriving DecidableEq

structure Dedupe (Key : Type*) where
  cache : List (Key × ℤ) := []
  inFlight : List Key := []

/-- The key is missing for a message that cannot be told apart. -/
def claimInboundDedupe (key : Option Key) (now : ℤ) (dedupe : Dedupe Key) :
    ClaimResult × Dedupe Key :=
  match key with
  | none => (.invalid, dedupe)
  | some key =>
    let (known, cache) := hasUnexpired options key now false dedupe.cache
    if known then (.duplicate, { dedupe with cache })
    else if key ∈ dedupe.inFlight then (.inflight, { dedupe with cache })
    else (.claimed, { cache, inFlight := key :: dedupe.inFlight })

def releaseInboundDedupe (key : Key) (dedupe : Dedupe Key) : Dedupe Key :=
  { dedupe with inFlight := dedupe.inFlight.filter (· ≠ key) }

def commitInboundDedupe (key : Key) (now : ℤ) (dedupe : Dedupe Key) : Dedupe Key :=
  releaseInboundDedupe key { dedupe with cache := (check options key now dedupe.cache).2 }

inductive Action (Key : Type*) where
  | claim (key : Option Key) (now : ℤ)
  | commit (key : Key) (now : ℤ)
  | release (key : Key)
  | reset

structure State (Key : Type*) where
  dedupe : Dedupe Key := {}
  clock : ℤ := 0

def step (state : State Key) : Action Key → Option (State Key)
  | .claim key now =>
    if now < state.clock then none
    else some ⟨(claimInboundDedupe options key now state.dedupe).2, now⟩
  | .commit key now =>
    if now < state.clock then none
    else some ⟨commitInboundDedupe options key now state.dedupe, now⟩
  | .release key => some { state with dedupe := releaseInboundDedupe key state.dedupe }
  | .reset => some { state with dedupe := {} }

/-! ## What a claim is answered -/

/-- The keys in the order of their last commits, and the keys that are claimed. -/
structure History (Key : Type*) where
  committed : List (Key × ℤ) := []
  claimed : List Key := []

def isRecent (now : ℤ) (key : Key) (committed : List (Key × ℤ)) : Bool :=
  (committed.lookup key).any fun time => !isExpired options now time

def answer (history : History Key) (now : ℤ) : Option Key → ClaimResult
  | none => .invalid
  | some key =>
    if isRecent options now key history.committed then .duplicate
    else if key ∈ history.claimed then .inflight
    else .claimed

def History.after (history : History Key) : Action Key → History Key
  | .claim key now =>
    if answer options history now key = .claimed then
      { history with claimed := key.toList ++ history.claimed }
    else history
  | .commit key now =>
    { committed :=
        if isRecent options now key history.committed then touch key now history.committed
        else keepLast options (touch key now history.committed)
      claimed := history.claimed.filter (· ≠ key) }
  | .release key => { history with claimed := history.claimed.filter (· ≠ key) }
  | .reset => {}

/-! ## The cache and the list -/

structure Dated (clock : ℤ) (cache : List (Key × ℤ)) : Prop where
  nodup : (keys cache).Nodup
  sorted : cache.Pairwise fun first second => first.2 ≤ second.2
  past : ∀ entry ∈ cache, entry.2 ≤ clock

def live (now : ℤ) (cache : List (Key × ℤ)) : List (Key × ℤ) :=
  cache.filter fun entry => !isExpired options now entry.2

structure Follows (clock : ℤ) (cache committed : List (Key × ℤ)) : Prop where
  cacheDated : Dated clock cache
  commitsDated : Dated clock committed
  same : ∀ now, clock ≤ now → live options now cache = live options now committed

variable {options} {clock now later time : ℤ} {cache other committed : List (Key × ℤ)} {key : Key}

omit [DecidableEq Key] in
theorem Dated.sublist (hdated : Dated clock cache) (hsub : other.Sublist cache) :
    Dated clock other where
  nodup := hdated.nodup.sublist (hsub.map _)
  sorted := hdated.sorted.sublist hsub
  past := fun entry hmem => hdated.past entry (hsub.subset hmem)

theorem Dated.touch (hdated : Dated now cache) : Dated now (touch key now cache) := by
  have herased := hdated.sublist (List.filter_sublist : (erase key cache).Sublist cache)
  refine ⟨?_, ?_, List.forall_mem_append.mpr ⟨herased.past, by simp⟩⟩
  · rw [InboundDedupe.touch, keys, List.map_append, List.nodup_append]
    refine ⟨herased.nodup, List.nodup_singleton _, ?_⟩
    intro other hmem same hsame heq
    obtain ⟨entry, hentry, rfl⟩ := List.mem_map.mp hmem
    simp_all [erase]
  · refine List.pairwise_append.mpr ⟨herased.sorted, List.pairwise_singleton _ _, ?_⟩
    intro entry hmem last hlast
    rw [List.mem_singleton.mp hlast]
    exact herased.past entry hmem

theorem isExpired_later (hexpired : isExpired options now time = true) (hlater : now ≤ later) :
    isExpired options later time = true := by
  simp only [isExpired, Bool.and_eq_true, decide_eq_true_eq] at hexpired ⊢
  omega

theorem live_touch (now time : ℤ) : live options now (touch key time cache) =
    erase key (live options now cache) ++ live options now [(key, time)] := by
  simp only [live, touch, erase, List.filter_append, List.filter_filter, Bool.and_comm]

omit [DecidableEq Key] in
theorem live_keepLast (hdated : Dated clock cache) :
    live options now (keepLast options cache) = keepLast options (live options now cache) := by
  unfold keepLast
  generalize options.maxSize.toNat = count
  have hsorted := hdated.sorted
  clear hdated
  induction cache with
  | nil => simp [live, List.rtake]
  | cons entry rest ih =>
    rw [List.pairwise_cons] at hsorted
    by_cases hexpired : isExpired options now entry.2 = true
    · have hrest : live options now (entry :: rest) = live options now rest := by
        simp [live, hexpired]
      rcases Nat.lt_or_ge rest.length count with hlong | hshort
      · have hle : (live options now rest).length ≤ count :=
          (List.length_filter_le _ _).trans hlong.le
        simp [List.rtake, Nat.sub_eq_zero_of_le hlong, Nat.sub_eq_zero_of_le hle, hrest]
      · have hdropped : (entry :: rest).rtake count = rest.rtake count := by
          simp [List.rtake, Nat.succ_sub hshort]
        rw [hdropped, hrest]
        exact ih hsorted.2
    · have hall : ∀ other ∈ entry :: rest, (!isExpired options now other.2) = true := by
        intro other hmem
        have hle : entry.2 ≤ other.2 := by
          rcases List.mem_cons.mp hmem with rfl | hmem
          · exact le_rfl
          · exact hsorted.1 other hmem
        simp only [isExpired, Bool.and_eq_true, decide_eq_true_eq, not_and, not_le,
          Bool.not_eq_true', Bool.and_eq_false_iff, decide_eq_false_iff_not] at hexpired ⊢
        omega
      rw [live, live, List.filter_eq_self.mpr hall, List.filter_eq_self.mpr]
      exact fun other hmem => hall other ((List.drop_sublist _ _).subset hmem)

omit [DecidableEq Key] in
theorem live_prune (hdated : Dated clock cache) (hlater : now ≤ later) :
    live options later (prune options now cache) = keepLast options (live options later cache) := by
  unfold prune
  simp only
  split_ifs with hlimited
  · rw [live_keepLast (hdated.sublist List.filter_sublist)]
    congr 1
    simp only [live, List.filter_filter]
    apply List.filter_congr
    intro entry _
    by_cases hold : entry.2 < now - max 0 options.ttlMs
    · have hexpired : isExpired options later entry.2 = true := by
        simp only [isExpired, Bool.and_eq_true, decide_eq_true_eq]
        omega
      simp [hexpired]
    · simp [hold]
  · exact live_keepLast hdated

theorem isRecent_iff (hdated : Dated clock cache) :
    isRecent options now key cache = true ↔ key ∈ keys (live options now cache) := by
  simp only [isRecent, Option.any_eq_true, keys, live, List.mem_map, List.mem_filter]
  constructor
  · rintro ⟨time, hlookup, hlive⟩
    exact ⟨(key, time), ⟨mem_of_lookup hlookup, hlive⟩, rfl⟩
  · rintro ⟨entry, ⟨hmem, hlive⟩, rfl⟩
    exact ⟨entry.2, lookup_of_mem hdated.nodup hmem, hlive⟩

theorem hasUnexpired_cases (options : DedupeCacheOptions) (key : Key) (now : ℤ)
    (touchOnRead : Bool) (cache : List (Key × ℤ)) :
    isRecent options now key cache = true ∧ hasUnexpired options key now touchOnRead cache =
        (true, if touchOnRead then touch key now cache else cache) ∨
      isRecent options now key cache = false ∧
        ∃ next, hasUnexpired options key now touchOnRead cache = (false, next) ∧
          (next = cache ∨ next = erase key cache ∧ ∃ existing,
            cache.lookup key = some existing ∧ isExpired options now existing = true) := by
  unfold hasUnexpired isRecent
  cases hlookup : cache.lookup key with
  | none => simp
  | some existing =>
    by_cases hexpired : isExpired options now existing = true
    · simp [hexpired]
    · simp [hexpired]

theorem Follows.isRecent_eq (hfollows : Follows options now cache committed) :
    isRecent options now key cache = isRecent options now key committed := by
  rw [Bool.eq_iff_iff, isRecent_iff hfollows.cacheDated, isRecent_iff hfollows.commitsDated,
    hfollows.same now le_rfl]

omit [DecidableEq Key] in
theorem Follows.mono (hfollows : Follows options clock cache committed) (hnow : clock ≤ now) :
    Follows options now cache committed where
  cacheDated := { hfollows.cacheDated with
    past := fun entry hmem => (hfollows.cacheDated.past entry hmem).trans hnow }
  commitsDated := { hfollows.commitsDated with
    past := fun entry hmem => (hfollows.commitsDated.past entry hmem).trans hnow }
  same := fun later hlater => hfollows.same later (hnow.trans hlater)

section

variable (hfollows : Follows options now cache committed)

include hfollows

theorem Follows.erase (hlookup : cache.lookup key = some time)
    (hexpired : isExpired options now time = true) :
    Follows options now (erase key cache) committed := by
  refine ⟨hfollows.cacheDated.sublist List.filter_sublist, hfollows.commitsDated, ?_⟩
  intro later hlater
  rw [← hfollows.same later hlater]
  simp only [live, Entries.erase, List.filter_filter]
  apply List.filter_congr
  intro entry hmem
  by_cases hkey : key = entry.1
  · subst hkey
    rw [lookup_of_mem hfollows.cacheDated.nodup hmem, Option.some.injEq] at hlookup
    simp [hlookup, isExpired_later hexpired hlater]
  · simp [hkey]

theorem peek_spec (key : Key) : (hasUnexpired options key now false cache).1 =
      isRecent options now key committed ∧
    Follows options now (hasUnexpired options key now false cache).2 committed := by
  rw [← hfollows.isRecent_eq]
  rcases hasUnexpired_cases options key now false cache with
    ⟨hrecent, hfound⟩ | ⟨hrecent, next, hfound, rfl | ⟨rfl, existing, hlookup, hexpired⟩⟩
  · rw [hfound, hrecent]
    exact ⟨rfl, hfollows⟩
  · rw [hfound, hrecent]
    exact ⟨rfl, hfollows⟩
  · rw [hfound, hrecent]
    exact ⟨rfl, hfollows.erase hlookup hexpired⟩

theorem check_spec (key : Key) : Follows options now (check options key now cache).2
    (if isRecent options now key committed then touch key now committed
      else keepLast options (touch key now committed)) := by
  have hcache : Dated now (touch key now cache) := hfollows.cacheDated.touch
  have hcommits : Dated now (touch key now committed) := hfollows.commitsDated.touch
  have hsame : ∀ later, now ≤ later → live options later (touch key now cache) =
      live options later (touch key now committed) := by
    intro later hlater
    rw [live_touch, live_touch, hfollows.same later hlater]
  have hpruned : Follows options now (prune options now (touch key now cache))
      (keepLast options (touch key now committed)) := by
    refine ⟨hcache.sublist ?_, hcommits.sublist (List.drop_sublist _ _), ?_⟩
    · refine (List.drop_sublist _ _).trans ?_
      split_ifs
      · exact List.filter_sublist
      · exact List.Sublist.refl _
    · intro later hlater
      rw [live_prune hcache hlater, live_keepLast hcommits, hsame later hlater]
  rw [← hfollows.isRecent_eq]
  unfold check
  rcases hasUnexpired_cases options key now true cache with
    ⟨hrecent, hfound⟩ | ⟨hrecent, next, hfound, rfl | ⟨rfl, -⟩⟩
  · rw [hfound, hrecent]
    exact ⟨hcache, hcommits, hsame⟩
  · rw [hfound, hrecent]
    exact hpruned
  · rw [hfound, hrecent]
    simpa [touch, Entries.erase] using hpruned

end

/-! ## Runs -/

structure Tracks (options : DedupeCacheOptions) (state : State Key) (history : History Key) :
    Prop where
  follows : Follows options state.clock state.dedupe.cache history.committed
  inFlight : state.dedupe.inFlight = history.claimed

omit [DecidableEq Key] in
theorem tracks_start (clock : ℤ) : Tracks options (⟨{}, clock⟩ : State Key) {} where
  follows := ⟨⟨by simp [keys], by simp, by simp⟩, ⟨by simp [keys], by simp, by simp⟩,
    fun _ _ => rfl⟩
  inFlight := rfl

variable {state next : State Key} {history : History Key} {action : Action Key}

theorem claim_spec (htracks : Tracks options state history) (hnow : state.clock ≤ now)
    (key : Option Key) : (claimInboundDedupe options key now state.dedupe).1 =
        answer options history now key ∧
      Tracks options ⟨(claimInboundDedupe options key now state.dedupe).2, now⟩
        (history.after options (.claim key now)) := by
  have hfollows := htracks.follows.mono hnow
  cases key with
  | none => exact ⟨rfl, hfollows, htracks.inFlight⟩
  | some key =>
    obtain ⟨hknown, hpeeked⟩ := peek_spec hfollows key
    have hin : key ∈ state.dedupe.inFlight ↔ key ∈ history.claimed := by rw [htracks.inFlight]
    have hkept : Tracks options ⟨{ state.dedupe with
        cache := (hasUnexpired options key now false state.dedupe.cache).2 }, now⟩ history :=
      ⟨hpeeked, htracks.inFlight⟩
    by_cases hrecent : isRecent options now key history.committed = true
    · simpa [claimInboundDedupe, History.after, answer, hknown, hrecent] using hkept
    · by_cases hclaimed : key ∈ history.claimed
      · simpa [claimInboundDedupe, History.after, answer, hknown, hrecent, hin, hclaimed]
          using hkept
      · simp only [claimInboundDedupe, History.after, answer, hknown, hrecent, hin, hclaimed,
          if_true, if_false, Bool.false_eq_true, true_and]
        exact ⟨hpeeked, congrArg _ htracks.inFlight⟩

theorem step_tracks (htracks : Tracks options state history)
    (hstep : step options state action = some next) :
    Tracks options next (history.after options action) := by
  cases action with
  | claim key now =>
    simp only [step, Option.ite_none_left_eq_some, not_lt, Option.some.injEq] at hstep
    obtain ⟨hnow, rfl⟩ := hstep
    exact (claim_spec htracks hnow key).2
  | commit key now =>
    simp only [step, Option.ite_none_left_eq_some, not_lt, Option.some.injEq] at hstep
    obtain ⟨hnow, rfl⟩ := hstep
    exact ⟨check_spec (htracks.follows.mono hnow) key, congrArg _ htracks.inFlight⟩
  | release key =>
    cases hstep
    exact ⟨htracks.follows, congrArg _ htracks.inFlight⟩
  | reset =>
    cases hstep
    exact tracks_start _

theorem run_tracks {actions : List (Action Key)} (htracks : Tracks options state history)
    {final : State Key} (hrun : run (step options) state actions = some final) :
    Tracks options final (actions.foldl (History.after options) history) := by
  induction actions generalizing state history with
  | nil =>
    cases hrun
    exact htracks
  | cons action rest ih =>
    obtain ⟨next, hstep, hrest⟩ := run_cons_eq_some.mp hrun
    exact ih (step_tracks htracks hstep) hrest

/-- In every run a claim is answered as the history says: by the commits of the last keys, and
by the claims that are neither committed nor released. -/
theorem claimed_as_history_says {actions : List (Action Key)}
    (hrun : run (step options) {} actions = some state) (hnow : state.clock ≤ now)
    (key : Option Key) : (claimInboundDedupe options key now state.dedupe).1 =
      answer options (actions.foldl (History.after options) {}) now key :=
  (claim_spec (run_tracks (tracks_start 0) hrun) hnow key).1

theorem claimed_as_history_says_twice : ∃ state,
    run (step ⟨10, 1⟩) {} [.claim (some 5) 0, .commit 5 1, .claim (some 6) 2] = some state ∧
      (claimInboundDedupe ⟨10, 1⟩ (some 5) 8 state.dedupe).1 = .duplicate ∧
      (claimInboundDedupe ⟨10, 1⟩ (some 6) 8 state.dedupe).1 = .inflight := by
  apply exists_of_view (by decide : Option.map State.clock _ = some 2)
  intro state hclock hrun
  have hnow : state.clock ≤ 8 := by rw [hclock]; decide
  have hsaid := claimed_as_history_says hrun hnow
  exact ⟨(hsaid (some 5)).trans (by decide), (hsaid (some 6)).trans (by decide)⟩

end LittleBaby.InboundDedupe
