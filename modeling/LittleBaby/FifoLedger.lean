import Mathlib.Algebra.Order.Group.Multiset
import Mathlib.Data.List.Nodup
import Mathlib.Data.Multiset.UnionInter
import Mathlib.Order.Lattice.Nat
import Mathlib.Tactic.Abel

/-!
# The ledger of a first-in first-out queue

Entries are enqueued, then either started from the head of the queue or cleared
with the whole queue; a result is settled once.
-/

structure FifoLedger (Entry Result : Type*) where
  enqueued : List Entry
  queue : List Entry
  started : List Entry
  cleared : List Entry
  /-- started entries without a result -/
  executing : Multiset Entry
  completed : List (Entry × Result)
  /-- completed entries whose result is not settled yet -/
  settling : Multiset (Entry × Result)
  settled : List (Entry × Result)

namespace FifoLedger

variable {Entry Result : Type*}

def empty : FifoLedger Entry Result := ⟨[], [], [], [], 0, [], 0, []⟩

def enqueue (ledger : FifoLedger Entry Result) (entry : Entry) : FifoLedger Entry Result :=
  { ledger with
    enqueued := ledger.enqueued ++ [entry]
    queue := ledger.queue ++ [entry] }

def start (ledger : FifoLedger Entry Result) (entry : Entry)
    (rest : List Entry) : FifoLedger Entry Result :=
  { ledger with
    queue := rest
    started := ledger.started ++ [entry]
    executing := entry ::ₘ ledger.executing }

def clear (ledger : FifoLedger Entry Result) (result : Result) : FifoLedger Entry Result :=
  { ledger with
    queue := []
    cleared := ledger.cleared ++ ledger.queue
    settled := ledger.settled ++ ledger.queue.map fun entry => (entry, result) }

def complete (ledger : FifoLedger Entry Result) (entry : Entry)
    (executing : Multiset Entry) (result : Result) : FifoLedger Entry Result :=
  { ledger with
    executing := executing
    completed := ledger.completed ++ [(entry, result)]
    settling := (entry, result) ::ₘ ledger.settling }

def settle (ledger : FifoLedger Entry Result) (pair : Entry × Result)
    (settling : Multiset (Entry × Result)) : FifoLedger Entry Result :=
  { ledger with
    settling := settling
    settled := ledger.settled ++ [pair] }

inductive Step (clearedResult : Result) :
    FifoLedger Entry Result → FifoLedger Entry Result → Prop
  | idle (ledger) : Step clearedResult ledger ledger
  | enqueue (ledger) (entry : Entry) (hfresh : entry ∉ ledger.enqueued) :
      Step clearedResult ledger (ledger.enqueue entry)
  | start (ledger) (entry : Entry) (rest : List Entry) (hqueue : ledger.queue = entry :: rest) :
      Step clearedResult ledger (ledger.start entry rest)
  | clear (ledger) : Step clearedResult ledger (ledger.clear clearedResult)
  | complete (ledger) (entry : Entry) (executing : Multiset Entry)
      (result : Result) (hexecuting : ledger.executing = entry ::ₘ executing) :
      Step clearedResult ledger (ledger.complete entry executing result)
  | settle (ledger) (pair : Entry × Result) (settling : Multiset (Entry × Result))
      (hsettling : ledger.settling = pair ::ₘ settling) :
      Step clearedResult ledger (ledger.settle pair settling)

structure Balanced (clearedResult : Result) (ledger : FifoLedger Entry Result) :
    Prop where
  enqueued_nodup : ledger.enqueued.Nodup
  order : (ledger.started ++ ledger.queue).Sublist ledger.enqueued
  partition : (ledger.enqueued : Multiset Entry) = ↑ledger.cleared + ↑ledger.started + ↑ledger.queue
  execution : (ledger.started : Multiset Entry) =
    ↑(ledger.completed.map Prod.fst) + ledger.executing
  settlement : (ledger.settled : Multiset (Entry × Result)) + ledger.settling =
    ↑ledger.completed + ↑(ledger.cleared.map fun entry => (entry, clearedResult))

variable {clearedResult : Result} {ledger next : FifoLedger Entry Result}

theorem empty_balanced : Balanced clearedResult (empty : FifoLedger Entry Result) := by
  constructor <;> simp [empty]

section

variable (hbalanced : ledger.Balanced clearedResult)

include hbalanced

variable {entry : Entry}

theorem Balanced.enqueue (hfresh : entry ∉ ledger.enqueued) :
    (ledger.enqueue entry).Balanced clearedResult where
  enqueued_nodup :=
    List.Nodup.append hbalanced.enqueued_nodup (List.nodup_singleton entry) (by simpa using hfresh)
  order := by
    simpa [FifoLedger.enqueue] using hbalanced.order.append (List.Sublist.refl [entry])
  partition := by
    simp only [FifoLedger.enqueue, ← Multiset.coe_add, hbalanced.partition]
    abel
  execution := hbalanced.execution
  settlement := hbalanced.settlement

theorem Balanced.start {rest : List Entry} (hqueue : ledger.queue = entry :: rest) :
    (ledger.start entry rest).Balanced clearedResult where
  enqueued_nodup := hbalanced.enqueued_nodup
  order := by
    have horder := hbalanced.order
    rw [hqueue] at horder
    simpa [FifoLedger.start] using horder
  partition := by
    have hpartition := hbalanced.partition
    rw [hqueue, ← Multiset.cons_coe, ← Multiset.singleton_add] at hpartition
    simp only [FifoLedger.start, ← Multiset.coe_add, hpartition, Multiset.coe_singleton]
    abel
  execution := by
    simp only [FifoLedger.start, ← Multiset.coe_add, hbalanced.execution,
      Multiset.coe_singleton, ← Multiset.singleton_add]
    abel
  settlement := hbalanced.settlement

theorem Balanced.clear : (ledger.clear clearedResult).Balanced clearedResult where
  enqueued_nodup := hbalanced.enqueued_nodup
  order := by
    simpa [FifoLedger.clear] using
      (List.sublist_append_left ledger.started ledger.queue).trans hbalanced.order
  partition := by
    simp only [FifoLedger.clear, ← Multiset.coe_add, hbalanced.partition, Multiset.coe_nil]
    abel
  execution := hbalanced.execution
  settlement := by
    have hsettlement := hbalanced.settlement
    simp only [FifoLedger.clear, List.map_append, ← Multiset.coe_add]
    rw [add_right_comm, hsettlement]
    abel

theorem Balanced.complete {executing : Multiset Entry} {result : Result}
    (hexecuting : ledger.executing = entry ::ₘ executing) :
    (ledger.complete entry executing result).Balanced clearedResult where
  enqueued_nodup := hbalanced.enqueued_nodup
  order := hbalanced.order
  partition := hbalanced.partition
  execution := by
    have hexecution := hbalanced.execution
    rw [hexecuting, ← Multiset.singleton_add] at hexecution
    simp only [FifoLedger.complete, List.map_append, ← Multiset.coe_add,
      hexecution, List.map_cons, List.map_nil, Multiset.coe_singleton]
    abel
  settlement := by
    have hsettlement := hbalanced.settlement
    simp only [FifoLedger.complete, ← Multiset.coe_add, Multiset.coe_singleton,
      ← Multiset.singleton_add]
    rw [add_left_comm, hsettlement]
    abel

theorem Balanced.settle {pair : Entry × Result} {settling : Multiset (Entry × Result)}
    (hsettling : ledger.settling = pair ::ₘ settling) :
    (ledger.settle pair settling).Balanced clearedResult where
  enqueued_nodup := hbalanced.enqueued_nodup
  order := hbalanced.order
  partition := hbalanced.partition
  execution := hbalanced.execution
  settlement := by
    have hsettlement := hbalanced.settlement
    rw [hsettling, ← Multiset.singleton_add] at hsettlement
    simp only [FifoLedger.settle, ← Multiset.coe_add, Multiset.coe_singleton]
    rw [add_assoc, hsettlement]

theorem Balanced.step (hstep : Step clearedResult ledger next) : next.Balanced clearedResult := by
  cases hstep with
  | idle => exact hbalanced
  | enqueue entry hfresh => exact hbalanced.enqueue hfresh
  | start entry rest hqueue => exact hbalanced.start hqueue
  | clear => exact hbalanced.clear
  | complete entry executing result hexecuting =>
    exact hbalanced.complete hexecuting
  | settle pair settling hsettling => exact hbalanced.settle hsettling

end

section

variable (hbalanced : ledger.Balanced clearedResult)
include hbalanced

theorem Balanced.started_nodup : ledger.started.Nodup :=
  hbalanced.enqueued_nodup.sublist ((List.sublist_append_left _ _).trans hbalanced.order)

private theorem Balanced.parts_nodup :
    (ledger.cleared ++ ledger.started ++ ledger.queue).Nodup := by
  rw [← Multiset.coe_nodup, ← Multiset.coe_add, ← Multiset.coe_add,
    ← hbalanced.partition, Multiset.coe_nodup]
  exact hbalanced.enqueued_nodup

theorem Balanced.not_cleared_of_started {entry : Entry}
    (hstarted : entry ∈ ledger.started) : entry ∉ ledger.cleared := by
  have hdisjoint := (List.nodup_append'.mp (List.nodup_append'.mp hbalanced.parts_nodup).1).2.2
  exact fun hcleared => hdisjoint hcleared hstarted

theorem Balanced.ended_nodup : (ledger.completed.map Prod.fst ++ ledger.cleared).Nodup := by
  have hparts := (List.nodup_append'.mp hbalanced.parts_nodup).1
  obtain ⟨hcleared, hstarted, hdisjoint⟩ := List.nodup_append'.mp hparts
  have hle : ((ledger.completed.map Prod.fst : List Entry) : Multiset Entry) ≤
      (ledger.started : Multiset Entry) := by
    rw [hbalanced.execution]
    exact Multiset.le_add_right _ _
  have hsub : ledger.completed.map Prod.fst ⊆ ledger.started := by
    intro entry hentry
    exact Multiset.mem_coe.mp (Multiset.mem_of_le hle (Multiset.mem_coe.mpr hentry))
  refine List.nodup_append'.mpr ⟨?_, hcleared, ?_⟩
  · exact Multiset.coe_nodup.mp (Multiset.nodup_of_le hle (Multiset.coe_nodup.mpr hstarted))
  · intro entry hcompleted hmem
    exact hdisjoint hmem (hsub hcompleted)

theorem Balanced.settled_nodup : (ledger.settled.map Prod.fst).Nodup := by
  have hmap : ((ledger.settled.map Prod.fst : List Entry) : Multiset Entry) +
      ledger.settling.map Prod.fst = ↑(ledger.completed.map Prod.fst ++ ledger.cleared) := by
    have hsettlement := congrArg (Multiset.map Prod.fst) hbalanced.settlement
    simpa [Multiset.map_add, Function.comp_def] using hsettlement
  have hle := Multiset.le_add_right ((ledger.settled.map Prod.fst : List Entry) : Multiset Entry)
    (ledger.settling.map Prod.fst)
  rw [hmap] at hle
  exact Multiset.coe_nodup.mp
    (Multiset.nodup_of_le hle (Multiset.coe_nodup.mpr hbalanced.ended_nodup))

theorem Balanced.mem_settled_or_settling_iff {pair : Entry × Result} :
    pair ∈ ledger.settled ∨ pair ∈ ledger.settling ↔ pair ∈ ledger.completed ∨
        pair.1 ∈ ledger.cleared ∧ pair.2 = clearedResult := by
  have hmem := congrArg (fun pairs => pair ∈ pairs) hbalanced.settlement
  simp only [Multiset.mem_add, Multiset.mem_coe, List.mem_map, eq_iff_iff] at hmem
  rw [hmem]
  constructor
  · rintro (hcompleted | ⟨entry, hentry, rfl⟩)
    · exact Or.inl hcompleted
    · exact Or.inr ⟨hentry, rfl⟩
  · rintro (hcompleted | ⟨hentry, hresult⟩)
    · exact Or.inl hcompleted
    · exact Or.inr ⟨pair.1, hentry, by rw [← hresult]⟩

end

section

variable (hstep : Step clearedResult ledger next)
include hstep

theorem Step.started_grows : ledger.started <+: next.started := by
  cases hstep with
  | start entry rest hqueue => exact List.prefix_append _ _
  | idle | enqueue | clear | complete | settle => exact List.prefix_refl _

theorem Step.completed_grows : ledger.completed <+: next.completed := by
  cases hstep with
  | complete entry executing result hexecuting =>
    exact List.prefix_append _ _
  | idle | enqueue | start | clear | settle => exact List.prefix_refl _

theorem Step.position [DecidableEq Entry] (hnodup : ledger.queue.Nodup)
    {entry : Entry} (hbefore : entry ∈ ledger.queue)
    (hafter : entry ∈ next.queue) :
    next.started.length + next.queue.idxOf entry =
      ledger.started.length + ledger.queue.idxOf entry := by
  cases hstep with
  | enqueue other hfresh =>
    simp only [FifoLedger.enqueue, List.idxOf_append_of_mem hbefore]
  | start other rest hqueue =>
    have hne : other ≠ entry := by
      rintro rfl
      rw [hqueue, List.nodup_cons] at hnodup
      exact hnodup.1 hafter
    simp only [FifoLedger.start, hqueue, List.length_append,
      List.length_singleton, List.idxOf_cons_ne _ hne]
    omega
  | clear => simp [FifoLedger.clear] at hafter
  | idle | complete | settle => rfl

end

theorem Balanced.queue_nodup (hbalanced : ledger.Balanced clearedResult) :
    ledger.queue.Nodup :=
  (List.nodup_append'.mp hbalanced.parts_nodup).2.1

theorem Balanced.not_completed_of_executing
    (hbalanced : ledger.Balanced clearedResult) {entry : Entry}
    (hexecuting : entry ∈ ledger.executing) :
    entry ∈ ledger.started ∧ entry ∉ ledger.completed.map Prod.fst := by
  have hnodup : (↑(ledger.completed.map Prod.fst) + ledger.executing).Nodup := by
    rw [← hbalanced.execution, Multiset.coe_nodup]
    exact hbalanced.started_nodup
  constructor
  · rw [← Multiset.mem_coe, hbalanced.execution]
    exact Multiset.mem_add.mpr (Or.inr hexecuting)
  · intro hcompleted
    exact Multiset.disjoint_left.mp (Multiset.disjoint_of_nodup_add hnodup)
      (Multiset.mem_coe.mpr hcompleted) hexecuting

private theorem exists_constant (count : ℕ → ℕ) (hmono : Monotone count)
    (bound : ℕ) (hbound : ∀ time, count time ≤ bound) :
    ∃ first, ∀ time, first ≤ time → count time = count first := by
  have hbdd : BddAbove (Set.range count) := by
    refine ⟨bound, ?_⟩
    rintro value ⟨time, rfl⟩
    exact hbound time
  obtain ⟨first, hfirst⟩ := Nat.sSup_mem (Set.range_nonempty count) hbdd
  refine ⟨first, fun time hle => le_antisymm ?_ (hmono hle)⟩
  rw [hfirst]
  exact le_csSup hbdd ⟨time, rfl⟩

section Progress

variable {history : ℕ → FifoLedger Entry Result}
  (hstep : ∀ time, Step clearedResult (history time) (history (time + 1)))

include hstep

theorem started_grows_of_le {first later : ℕ} (hle : first ≤ later) :
    (history first).started <+: (history later).started := by
  induction hle with
  | refl => exact List.prefix_refl _
  | step hle ih => exact ih.trans (hstep _).started_grows

theorem completed_grows_of_le {first later : ℕ} (hle : first ≤ later) :
    (history first).completed <+: (history later).completed := by
  induction hle with
  | refl => exact List.prefix_refl _
  | step hle ih => exact ih.trans (hstep _).completed_grows

theorem exists_all_completed (entries : List Entry) (first : ℕ)
    (hfinish : ∀ entry ∈ entries, ∃ time, entry ∈ (history time).completed.map Prod.fst) :
    ∃ time, first ≤ time ∧ ∀ entry ∈ entries, entry ∈ (history time).completed.map Prod.fst := by
  induction entries with
  | nil => exact ⟨first, le_refl first, by simp⟩
  | cons entry rest ih =>
    obtain ⟨early, hearly, hrest⟩ := ih fun other hmem =>
      hfinish other (List.mem_cons_of_mem _ hmem)
    obtain ⟨time, htime⟩ := hfinish entry List.mem_cons_self
    have hkeep : ∀ earlier, earlier ≤ max early time → ∀ other,
        other ∈ (history earlier).completed.map Prod.fst →
          other ∈ (history (max early time)).completed.map Prod.fst :=
      fun earlier hle other hmem =>
        ((completed_grows_of_le hstep hle).map Prod.fst).subset hmem
    refine ⟨max early time, le_max_of_le_left hearly, ?_⟩
    intro other hmem
    rcases List.mem_cons.mp hmem with rfl | hmem
    · exact hkeep time (le_max_right _ _) _ htime
    · exact hkeep early (le_max_left _ _) other (hrest other hmem)

theorem eventually_leaves (hbalanced : ∀ time, (history time).Balanced clearedResult)
    (hbusy : ∀ time, ∃ later, time ≤ later ∧
      ((history later).queue ≠ [] → (history later).executing ≠ 0))
    (hfinish : ∀ time, ∀ entry ∈ (history time).started, ∃ later,
      entry ∈ (history later).completed.map Prod.fst)
    (entry : Entry) (time : ℕ) :
    ∃ later, time ≤ later ∧ entry ∉ (history later).queue := by
  classical
  by_contra hforever
  push Not at hforever
  -- every start brings the entry closer to the head, so the starts end
  have hposition : ∀ delay, (history (time + delay)).started.length +
      (history (time + delay)).queue.idxOf entry =
        (history time).started.length + (history time).queue.idxOf entry := by
    intro delay
    induction delay with
    | zero => rfl
    | succ delay ih =>
      rw [← ih]
      exact (hstep (time + delay)).position
        (hbalanced _).queue_nodup (hforever _ (Nat.le_add_right _ _))
        (hforever _ (by omega))
  obtain ⟨first, hconstant⟩ := exists_constant
    (fun delay => (history (time + delay)).started.length)
    (fun early late hle =>
      (started_grows_of_le hstep (Nat.add_le_add_left hle time)).length_le)
    ((history time).started.length + (history time).queue.idxOf entry)
    (fun delay => by have := hposition delay; omega)
  -- then all started entries complete, and the queue is busy with nothing
  obtain ⟨done, hdone, hcompleted⟩ := exists_all_completed hstep
    (history (time + first)).started (time + first)
    (hfinish (time + first))
  obtain ⟨later, hlater, hexecuting⟩ := hbusy done
  have hwaiting : (history later).queue ≠ [] := List.ne_nil_of_mem (hforever later (by omega))
  obtain ⟨running, hrunning⟩ := Multiset.exists_mem_of_ne_zero (hexecuting hwaiting)
  obtain ⟨hstarted, hnot⟩ := (hbalanced later).not_completed_of_executing hrunning
  have hsame : (history (time + first)).started = (history later).started := by
    refine (started_grows_of_le hstep (by omega)).eq_of_length ?_
    have hlen := hconstant (later - time) (by omega)
    simp only [show time + (later - time) = later by omega] at hlen
    exact hlen.symm
  rw [← hsame] at hstarted
  exact hnot (((completed_grows_of_le hstep hlater).map Prod.fst).subset
    (hcompleted running hstarted))

end Progress

end FifoLedger
