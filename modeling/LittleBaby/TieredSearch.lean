import Mathlib.Data.List.Basic

/-!
# Searching in tiers

The first enabled tier with an element that satisfies it answers with the first
such element.  A tier may leave out elements that fail it or that satisfy an
enabled tier in front of it.
-/

namespace TieredSearch

variable {Label Element : Type*}

structure Tier (Label Element : Type*) where
  label : Label
  enabled : Bool
  candidates : List Element
  accepts : Element → Bool

def search : List (Tier Label Element) → Option (Label × Element)
  | [] => none
  | tier :: rest =>
    if tier.enabled then
      match tier.candidates.find? tier.accepts with
      | some element => some (tier.label, element)
      | none => search rest
    else search rest

def Tier.over (elements : List Element) (tier : Tier Label Element) : Tier Label Element :=
  { tier with candidates := elements }

def Tier.Covers (elements : List Element) (earlier : List (Tier Label Element))
    (tier : Tier Label Element) : Prop :=
  ∃ narrow : Element → Bool, tier.candidates = elements.filter narrow ∧
    ∀ element ∈ elements, tier.accepts element = true → narrow element = false →
      ∃ other ∈ earlier, other.enabled = true ∧ other.accepts element = true

def Exhausted (elements : List Element) (earlier : List (Tier Label Element)) :
    Prop :=
  ∀ tier ∈ earlier, tier.enabled = true → ∀ element ∈ elements, tier.accepts element = false

variable {elements : List Element}

theorem find?_filter_of_imp {narrow accepts : Element → Bool}
    (himp : ∀ element ∈ elements, accepts element = true → narrow element = true) :
    (elements.filter narrow).find? accepts = elements.find? accepts := by
  induction elements with
  | nil => rfl
  | cons first rest ih =>
    have hrest := ih fun element hmem =>
      himp element (List.mem_cons_of_mem _ hmem)
    rw [List.filter_cons]
    split
    next hnarrow => rw [List.find?_cons, List.find?_cons, hrest]
    next hnarrow =>
      have hfails : accepts first = false := by
        by_contra haccepts
        exact hnarrow (himp first List.mem_cons_self (by simpa using haccepts))
      rw [List.find?_cons_of_neg (by simp [hfails]), hrest]

theorem Tier.Covers.find?_eq {earlier : List (Tier Label Element)} {tier : Tier Label Element}
    (hcovers : tier.Covers elements earlier)
    (hexhausted : Exhausted elements earlier) :
    tier.candidates.find? tier.accepts = elements.find? tier.accepts := by
  rcases hcovers with ⟨narrow, hcandidates, hnarrow⟩
  rw [hcandidates]
  apply find?_filter_of_imp
  intro element hmem haccepts
  by_contra hnot
  have hfalse : narrow element = false := by simpa using hnot
  rcases hnarrow element hmem haccepts hfalse with
    ⟨other, hother, henabled, hotheraccepts⟩
  have hfailed := hexhausted other hother henabled element hmem
  rw [hotheraccepts] at hfailed
  cases hfailed

def AllCover (elements : List Element) :
    List (Tier Label Element) → List (Tier Label Element) → Prop
  | _, [] => True
  | earlier, tier :: rest =>
    (tier.enabled = true → tier.Covers elements earlier) ∧ AllCover elements (tier :: earlier) rest

theorem search_from (tiers earlier : List (Tier Label Element))
    (hcover : AllCover elements earlier tiers)
    (hexhausted : Exhausted elements earlier) :
    search tiers = search (tiers.map (Tier.over elements)) := by
  induction tiers generalizing earlier with
  | nil => rfl
  | cons tier rest ih =>
    rcases hcover with ⟨hcovers, hrest⟩
    have hnext (hnone : tier.enabled = true → ∀ element ∈ elements, tier.accepts element = false) :
        search rest = search (rest.map (Tier.over elements)) := by
      apply ih (tier :: earlier) hrest
      intro other hother henabled
      rcases List.mem_cons.mp hother with rfl | hother
      · exact hnone henabled
      · exact hexhausted other hother henabled
    rw [List.map_cons, search, search]
    by_cases henabled : tier.enabled = true
    · have hfind := (hcovers henabled).find?_eq hexhausted
      simp only [Tier.over, henabled, if_true, hfind]
      cases hfound : elements.find? tier.accepts with
      | some element => rfl
      | none =>
        apply hnext
        intro _ element hmem
        simpa using List.find?_eq_none.mp hfound element hmem
    · simp only [Tier.over, henabled]
      apply hnext
      intro htrue
      exact absurd htrue henabled

theorem search_eq {tiers : List (Tier Label Element)} (hcover : AllCover elements [] tiers) :
    search tiers = search (tiers.map (Tier.over elements)) := by
  apply search_from tiers [] hcover
  intro tier htier
  cases htier

theorem search_image {Rule Other : Type*} (rules : List Rule)
    (label : Rule → Label) (enabled : Rule → Bool)
    {accepts : Rule → Element → Bool} {acceptsImage : Rule → Other → Bool}
    {image : Element → Other} {elements : List Element}
    (haccepts : ∀ rule ∈ rules, ∀ element ∈ elements,
      accepts rule element = acceptsImage rule (image element)) :
    (search (rules.map fun rule =>
        ({ label := label rule
           enabled := enabled rule
           candidates := elements
           accepts := accepts rule } : Tier Label Element))).map
        (Prod.map id image) =
      search (rules.map fun rule =>
        ({ label := label rule
           enabled := enabled rule
           candidates := elements.map image
           accepts := acceptsImage rule } : Tier Label Other)) := by
  induction rules with
  | nil => rfl
  | cons rule rest ih =>
    have hrest := ih fun other hother =>
      haccepts other (List.mem_cons_of_mem _ hother)
    have hfind : (elements.map image).find? (acceptsImage rule) =
        (elements.find? (accepts rule)).map image := by
      have hrule := haccepts rule List.mem_cons_self
      rw [List.find?_map]
      congr 1
      clear hrest ih haccepts
      induction elements with
      | nil => rfl
      | cons first others ih =>
        have hothers := ih fun element helement =>
          hrule element (List.mem_cons_of_mem _ helement)
        rw [List.find?_cons, List.find?_cons, hothers, Function.comp_apply,
          hrule first List.mem_cons_self]
    rw [List.map_cons, List.map_cons, search, search]
    simp only [hfind]
    by_cases henabled : enabled rule = true
    · simp only [henabled, if_true]
      cases elements.find? (accepts rule) with
      | some element => rfl
      | none => exact hrest
    · simp only [henabled]
      exact hrest

end TieredSearch
