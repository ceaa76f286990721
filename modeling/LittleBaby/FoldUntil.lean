import Mathlib.Data.Int.Order.Basic
import Mathlib.Data.List.Induction

/-!
# Loops that break

A loop over a list that is left as soon as its state says so has worked off a
front part of the list, and no state before the end of that part said so.
-/

namespace FoldUntil

variable {State Item : Type*}

def foldUntil (stop : State → Bool) (step : State → Item → State) : List Item → State → State
  | [], state => state
  | item :: rest, state =>
    if stop state then state else foldUntil stop step rest (step state item)

variable {stop : State → Bool} {step : State → Item → State}

theorem foldUntil_induct {items : List Item} {state : State}
    (inv : List Item → State → Prop) (hinit : inv [] state)
    (hstep : ∀ done item rest state, items = done ++ item :: rest →
      stop state = false → inv done state → inv (done ++ [item]) (step state item)) :
    ∃ done rest, items = done ++ rest ∧ inv done (foldUntil stop step items state) ∧
      (rest = [] ∨ stop (foldUntil stop step items state) = true) := by
  induction items generalizing state inv with
  | nil => exact ⟨[], [], rfl, hinit, .inl rfl⟩
  | cons item rest ih =>
    rw [foldUntil]
    cases hstop : stop state with
    | true => exact ⟨[], item :: rest, rfl, hinit, .inr hstop⟩
    | false =>
      have hfirst := hstep [] item rest state rfl hstop hinit
      obtain ⟨done, tail, hsplit, hinv, hend⟩ :=
        ih (fun done => inv (item :: done)) hfirst (by
          intro done other after inner hrest
          exact hstep (item :: done) other after inner (by rw [hrest]; rfl))
      exact ⟨item :: done, tail, by rw [hsplit]; rfl, by simpa using hinv, by simpa using hend⟩

theorem foldUntil_related {Other : Type*} {otherStop : Other → Bool}
    {otherStep : Other → Item → Other} {items : List Item} {state : State}
    {other : Other} (related : List Item → State → Other → Prop)
    (hinit : related [] state other)
    (hstop : ∀ done state other, related done state other → stop state = otherStop other)
    (hstep : ∀ done item rest state other, items = done ++ item :: rest → related done state other →
        related (done ++ [item]) (step state item) (otherStep other item)) :
    ∃ done, related done (foldUntil stop step items state)
      (foldUntil otherStop otherStep items other) := by
  induction items generalizing state other related with
  | nil => exact ⟨[], hinit⟩
  | cons item rest ih =>
    rw [foldUntil, foldUntil, hstop [] state other hinit]
    cases hother : otherStop other with
    | true => exact ⟨[], hinit⟩
    | false =>
      have hfirst := hstep [] item rest state other rfl hinit
      obtain ⟨done, hdone⟩ := ih (fun done => related (item :: done)) hfirst
        (fun done => hstop (item :: done)) (by
          intro done next after inner otherInner hrest
          exact hstep (item :: done) next after inner otherInner (by rw [hrest]; rfl))
      exact ⟨item :: done, by simpa using hdone⟩

theorem foldUntil_append {front : List Item} (back : List Item) {state : State}
    (hruns : ∀ before item after, front = before ++ item :: after →
      stop (before.foldl step state) = false) :
    foldUntil stop step (front ++ back) state =
      foldUntil stop step back (front.foldl step state) := by
  induction front generalizing state with
  | nil => rfl
  | cons item rest ih =>
    have hfirst := hruns [] item rest rfl
    rw [List.foldl_nil] at hfirst
    rw [List.cons_append, foldUntil, hfirst, List.foldl_cons]
    apply ih
    intro before other after hrest
    exact hruns (item :: before) other after (by rw [hrest]; rfl)

section Falling

variable {total : State → ℤ} {state : State}

theorem foldl_falls {front : List Item} (more : List Item)
    (hfalls : ∀ before item after, front ++ more = before ++ item :: after →
      total ((before ++ [item]).foldl step state) ≤ total (before.foldl step state)) :
    total ((front ++ more).foldl step state) ≤ total (front.foldl step state) := by
  induction more using List.reverseRecOn with
  | nil => simp
  | append_singleton more item ih =>
    have hlast := hfalls (front ++ more) item [] (by simp)
    have hbefore := ih fun before other after hsplit =>
      hfalls before other (after ++ [item]) (by
        rw [← List.append_assoc, hsplit]
        simp)
    rw [← List.append_assoc]
    exact le_trans hlast hbefore

theorem foldUntil_runs {bound : ℤ} {front : List Item} {item : Item} (back : List Item)
    (hstop : ∀ state, bound < total state → stop state = false)
    (hfalls : ∀ before other after, front = before ++ other :: after →
      total ((before ++ [other]).foldl step state) ≤ total (before.foldl step state))
    (habove : bound < total (front.foldl step state)) :
    foldUntil stop step (front ++ item :: back) state =
      foldUntil stop step back ((front ++ [item]).foldl step state) := by
  have hsplit : front ++ item :: back = (front ++ [item]) ++ back := by simp
  rw [hsplit]
  apply foldUntil_append
  intro before other after hbefore
  apply hstop
  obtain ⟨more, hmore⟩ : ∃ more, front = before ++ more := by
    rcases List.eq_nil_or_concat after with hnil | ⟨init, last, hafter⟩
    · rw [hnil] at hbefore
      exact ⟨[], by simpa using (List.append_inj' hbefore rfl).1⟩
    · refine ⟨other :: init, ?_⟩
      rw [hafter, List.concat_eq_append, ← List.cons_append, ← List.append_assoc] at hbefore
      exact (List.append_inj' hbefore rfl).1
  rw [hmore] at hfalls habove
  exact lt_of_lt_of_le habove (foldl_falls more hfalls)

end Falling

theorem foldUntil_stopped {items : List Item} {state : State}
    (hstop : stop state = true) : foldUntil stop step items state = state := by
  cases items with
  | nil => rfl
  | cons item rest => rw [foldUntil, hstop, if_pos rfl]

end FoldUntil
