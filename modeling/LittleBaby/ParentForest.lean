import Mathlib.Data.List.Nodup
import Mathlib.Logic.Relation
import Mathlib.Order.WellFounded

/-!
# Forests of parent links

Nodes are kept in a list in which every parent stands before its children.  Some
nodes are taken out, and the others are hung below their nearest ancestor that is
left.
-/

namespace ParentForest

open Relation TransGen

structure Links (Node Id : Type*) where
  idOf : Node → Id
  parentOf : Node → Option Id
  setParent : Node → Option Id → Node
  idOf_setParent : ∀ node parent, idOf (setParent node parent) = idOf node
  parentOf_setParent : ∀ node parent, parentOf (setParent node parent) = parent

attribute [simp] Links.idOf_setParent Links.parentOf_setParent

variable {Node Id : Type*}

namespace Links

variable (links : Links Node Id)

def ids (nodes : List Node) : List Id := nodes.map links.idOf

structure IsForest (nodes : List Node) : Prop where
  distinct : (links.ids nodes).Nodup
  ordered : ∀ earlier node later, nodes = earlier ++ node :: later →
    ∀ parent, links.parentOf node = some parent → parent ∈ links.ids earlier

def Parent (nodes : List Node) (above below : Id) : Prop :=
  ∃ node ∈ nodes, links.idOf node = below ∧ links.parentOf node = some above

inductive Lineage (nodes : List Node) : Option Id → List Node → Prop where
  | root : Lineage nodes none []
  | child (above : List Node) (node : Node) (hmem : node ∈ nodes)
      (habove : Lineage nodes (links.parentOf node) above) :
      Lineage nodes (some (links.idOf node)) (above ++ [node])

end Links

def nearestKept (parentAt : Id → Option Id) (removed : Id → Bool) : ℕ → Option Id → Option Id
  | _, none => none
  | 0, some _ => none
  | fuel + 1, some id =>
    if removed id then nearestKept parentAt removed fuel (parentAt id)
    else some id

@[simp]
theorem nearestKept_none (parentAt : Id → Option Id) (removed : Id → Bool)
    (fuel : ℕ) : nearestKept parentAt removed fuel none = none := by
  cases fuel <;> rfl

variable {links : Links Node Id} {nodes : List Node}

namespace Links.IsForest

theorem of_positions (hdistinct : (links.ids nodes).Nodup)
    (hordered : ∀ count < nodes.length, ∀ node ∈ nodes[count]?,
      ∀ parent ∈ links.parentOf node, parent ∈ links.ids (nodes.take count)) :
    links.IsForest nodes where
  distinct := hdistinct
  ordered := by
    intro earlier node later hsplit parent hparent
    have hlt : earlier.length < nodes.length := by simp [hsplit]
    have hmem := hordered earlier.length hlt node (by simp [hsplit]) parent hparent
    rw [hsplit, List.take_left] at hmem
    exact hmem

theorem mem_ids {node : Node} (hmem : node ∈ nodes) : links.idOf node ∈ links.ids nodes :=
  List.mem_map_of_mem hmem

theorem eq_of_idOf_eq (hforest : links.IsForest nodes) {first second : Node}
    (hfirst : first ∈ nodes) (hsecond : second ∈ nodes)
    (hid : links.idOf first = links.idOf second) : first = second :=
  List.inj_on_of_nodup_map hforest.distinct hfirst hsecond hid

variable {below : Id}

theorem parent_unique (hforest : links.IsForest nodes) {first second : Id}
    (hfirst : links.Parent nodes first below)
    (hsecond : links.Parent nodes second below) : first = second := by
  obtain ⟨node, hnode, hid, hparent⟩ := hfirst
  obtain ⟨other, hother, hotherId, hotherParent⟩ := hsecond
  have hsame := hforest.eq_of_idOf_eq hnode hother (hid.trans hotherId.symm)
  subst hsame
  exact Option.some.inj (hparent.symm.trans hotherParent)

variable {above : Id}

theorem parent_mem (hforest : links.IsForest nodes)
    (hparent : links.Parent nodes above below) : above ∈ links.ids nodes := by
  obtain ⟨node, hnode, -, habove⟩ := hparent
  obtain ⟨earlier, later, hsplit⟩ := List.append_of_mem hnode
  have hearlier := hforest.ordered earlier node later hsplit above habove
  rw [hsplit, Links.ids, List.map_append]
  exact List.mem_append_left _ hearlier

variable [DecidableEq Id]

theorem parent_lt (hforest : links.IsForest nodes) (hparent : links.Parent nodes above below) :
    (links.ids nodes).idxOf above < (links.ids nodes).idxOf below := by
  obtain ⟨node, hnode, hid, habove⟩ := hparent
  obtain ⟨earlier, later, hsplit⟩ := List.append_of_mem hnode
  have hearlier := hforest.ordered earlier node later hsplit above habove
  have hdistinct := hforest.distinct
  have hids : links.ids nodes = links.ids earlier ++ below :: links.ids later := by
    rw [hsplit, Links.ids, List.map_append, List.map_cons, hid]
    rfl
  rw [hids] at hdistinct ⊢
  have hbelow : below ∉ links.ids earlier := by
    intro hmem
    have hdisjoint := List.disjoint_of_nodup_append hdistinct
    exact hdisjoint hmem List.mem_cons_self
  rw [List.idxOf_append_of_mem hearlier, List.idxOf_append_of_notMem hbelow]
  have hlt := List.idxOf_lt_length_of_mem hearlier
  omega

theorem rank_lt (hforest : links.IsForest nodes)
    (hancestor : TransGen (links.Parent nodes) above below) :
    (links.ids nodes).idxOf above < (links.ids nodes).idxOf below := by
  induction hancestor with
  | single hparent => exact hforest.parent_lt hparent
  | tail _ hparent ih => exact ih.trans (hforest.parent_lt hparent)

theorem induction_on_parent (hforest : links.IsForest nodes) {property : Id → Prop}
    (hstep : ∀ id ∈ links.ids nodes,
      (∀ above, links.Parent nodes above id → property above) → property id) :
    ∀ id ∈ links.ids nodes, property id := by
  intro id hid
  induction hrank : (links.ids nodes).idxOf id using Nat.strong_induction_on generalizing id with
  | _ rank ih =>
    apply hstep id hid
    intro above habove
    have hlt := hforest.parent_lt habove
    exact ih _ (hrank ▸ hlt) above (hforest.parent_mem habove) rfl

end Links.IsForest

section Climbing

variable {parentAt : Id → Option Id} {removed : Id → Bool}

def Reads (links : Links Node Id) (nodes : List Node) (parentAt : Id → Option Id) : Prop :=
  ∀ above id, parentAt id = some above ↔ links.Parent nodes above id

theorem nearestKept_fuel [DecidableEq Id] (hforest : links.IsForest nodes)
    (hreads : Reads links nodes parentAt) (fuel : ℕ) {id : Id}
    (hfuel : (links.ids nodes).idxOf id < fuel) :
    nearestKept parentAt removed (fuel + 1) (some id) =
      nearestKept parentAt removed fuel (some id) := by
  induction fuel generalizing id with
  | zero => omega
  | succ fuel ih =>
    rw [nearestKept, nearestKept]
    split
    · cases hparent : parentAt id with
      | none => simp
      | some above =>
        have hlt := hforest.parent_lt ((hreads above id).mp hparent)
        exact ih (by omega)
    · rfl

def climb (nodes : List Node) (parentAt : Id → Option Id) (removed : Id → Bool) :
    Option Id → Option Id :=
  nearestKept parentAt removed nodes.length

@[simp]
theorem climb_none : climb nodes parentAt removed none = none := by
  simp [climb]

variable [DecidableEq Id]

section

variable (hforest : links.IsForest nodes) (hreads : Reads links nodes parentAt)
include hforest hreads

theorem climb_some {id : Id} (hid : id ∈ links.ids nodes) : climb nodes parentAt removed (some id) =
      if removed id then climb nodes parentAt removed (parentAt id)
      else some id := by
  have hlt := List.idxOf_lt_length_of_mem hid
  rw [Links.ids, List.length_map] at hlt
  rw [climb, ← nearestKept_fuel hforest hreads nodes.length hlt, nearestKept]

theorem climb_eq_some {found : Id} :
    ∀ id ∈ links.ids nodes, climb nodes parentAt removed (some id) = some found →
    removed found = false ∧ found ∈ links.ids nodes ∧ ReflTransGen (links.Parent nodes) found id ∧
      ∀ above, removed above = false → ReflTransGen (links.Parent nodes) above id →
        ReflTransGen (links.Parent nodes) above found := by
  refine hforest.induction_on_parent ?_
  intro id hid ih hclimb
  rw [climb_some hforest hreads hid] at hclimb
  cases hremoved : removed id with
  | false =>
    have hfound : id = found := by simpa [hremoved] using hclimb
    subst hfound
    exact ⟨hremoved, hid, .refl, fun above _ habove => habove⟩
  | true =>
    rw [hremoved, if_pos rfl] at hclimb
    cases hparent : parentAt id with
    | none => simp [hparent] at hclimb
    | some next =>
      have hnext := (hreads next id).mp hparent
      rw [hparent] at hclimb
      have hspec := ih next hnext hclimb
      refine ⟨hspec.1, hspec.2.1, hspec.2.2.1.tail hnext, ?_⟩
      intro above hkept habove
      rcases habove.cases_tail with heq | ⟨middle, hmiddle, hlast⟩
      · rw [← heq, hremoved] at hkept
        cases hkept
      · have hsame := hforest.parent_unique hlast hnext
        subst hsame
        exact hspec.2.2.2 above hkept hmiddle

theorem climb_eq_none {above : Id} :
    ∀ id ∈ links.ids nodes, climb nodes parentAt removed (some id) = none →
      ReflTransGen (links.Parent nodes) above id → removed above = true := by
  refine hforest.induction_on_parent ?_
  intro id hid ih hclimb habove
  rw [climb_some hforest hreads hid] at hclimb
  cases hremoved : removed id with
  | false => simp [hremoved] at hclimb
  | true =>
    rcases habove.cases_tail with heq | ⟨next, hnext, hlast⟩
    · rw [← heq, hremoved]
    · have hparent := (hreads next id).mpr hlast
      rw [hremoved, if_pos rfl, hparent] at hclimb
      exact ih next hlast hclimb hnext

end

end Climbing

section Pruning

variable {parentAt : Id → Option Id} {removed : Id → Bool}

def prune (links : Links Node Id) (parentAt : Id → Option Id)
    (removed : Id → Bool) (nodes : List Node) : List Node :=
  (nodes.filter fun node => !removed (links.idOf node)).map fun node =>
    links.setParent node (climb nodes parentAt removed (links.parentOf node))

theorem mem_ids_prune {id : Id} : id ∈ links.ids (prune links parentAt removed nodes) ↔
      id ∈ links.ids nodes ∧ removed id = false := by
  simp only [Links.ids, prune, List.map_map, List.mem_map, List.mem_filter,
    Function.comp, Links.idOf_setParent, Bool.not_eq_eq_eq_not, Bool.not_true]
  constructor
  · rintro ⟨node, ⟨hmem, hkept⟩, rfl⟩
    exact ⟨⟨node, hmem, rfl⟩, hkept⟩
  · rintro ⟨⟨node, hmem, rfl⟩, hkept⟩
    exact ⟨node, ⟨hmem, hkept⟩, rfl⟩

variable {above : Id}

variable {below : Id}

theorem parent_prune : links.Parent (prune links parentAt removed nodes) above below ↔
      ∃ node ∈ nodes, removed below = false ∧ links.idOf node = below ∧
        climb nodes parentAt removed (links.parentOf node) = some above := by
  simp only [Links.Parent, prune, List.mem_map, List.mem_filter,
    Bool.not_eq_eq_eq_not, Bool.not_true]
  constructor
  · rintro ⟨_, ⟨node, ⟨hmem, hkept⟩, rfl⟩, hid, hparent⟩
    rw [links.idOf_setParent] at hid
    rw [links.parentOf_setParent] at hparent
    exact ⟨node, hmem, hid ▸ hkept, hid, hparent⟩
  · rintro ⟨node, hmem, hkept, rfl, hparent⟩
    exact ⟨_, ⟨node, ⟨hmem, hkept⟩, rfl⟩, by simp, by simpa using hparent⟩

section

variable (hforest : links.IsForest nodes) {earlier later : List Node} (hsplit : nodes = earlier ++
  later) {above below : Id} (hbelow : below ∈ links.ids earlier)

include hforest hsplit hbelow

theorem Links.IsForest.parent_earlier (hparent : links.Parent nodes above below) :
    above ∈ links.ids earlier := by
  obtain ⟨node, hnode, hid⟩ := List.mem_map.mp hbelow
  obtain ⟨other, hother, hotherId, hotherParent⟩ := hparent
  have hnodes : node ∈ nodes := by
    rw [hsplit]
    exact List.mem_append_left _ hnode
  have hsame := hforest.eq_of_idOf_eq hnodes hother (hid.trans hotherId.symm)
  subst hsame
  obtain ⟨before, after, hinner⟩ := List.append_of_mem hnode
  have hfull : nodes = before ++ node :: (after ++ later) := by
    rw [hsplit, hinner]
    simp
  have habove := hforest.ordered before node _ hfull above hotherParent
  rw [hinner, Links.ids, List.map_append]
  exact List.mem_append_left _ habove

theorem Links.IsForest.ancestor_earlier
    (hancestor : ReflTransGen (links.Parent nodes) above below) :
    above ∈ links.ids earlier := by
  induction hancestor with
  | refl => exact hbelow
  | tail _ hlast ih =>
    apply ih
    exact hforest.parent_earlier hsplit hbelow hlast

end

variable [DecidableEq Id]

section

variable (hforest : links.IsForest nodes) (hreads : Reads links nodes parentAt)

include hforest hreads

theorem isForest_prune : links.IsForest (prune links parentAt removed nodes) where
  distinct := by
    have hids : links.ids (prune links parentAt removed nodes) =
        (links.ids nodes).filter fun id => !removed id := by
      simp [Links.ids, prune, List.filter_map, Function.comp_def]
    rw [hids]
    exact hforest.distinct.filter _
  ordered := by
    intro earlier node later hsplit parent hparent
    rw [prune, List.map_eq_append_iff] at hsplit
    obtain ⟨front, back, hfilter, hfront, hback⟩ := hsplit
    rw [List.map_eq_cons_iff] at hback
    obtain ⟨original, rest, hbackEq, horiginal, -⟩ := hback
    subst hbackEq
    rw [List.filter_eq_append_iff] at hfilter
    obtain ⟨nodesFront, nodesBack, hnodes, hfrontFilter, hbackFilter⟩ := hfilter
    rw [List.filter_eq_cons_iff] at hbackFilter
    obtain ⟨skipped, tail, hbackNodes, hskipped, -, -⟩ := hbackFilter
    have hwhole : nodes = (nodesFront ++ skipped) ++ original :: tail := by
      rw [hnodes, hbackNodes]
      simp
    rw [← horiginal, links.parentOf_setParent] at hparent
    cases hbase : links.parentOf original with
    | none => simp [hbase] at hparent
    | some base =>
      rw [hbase] at hparent
      have hbaseEarlier := hforest.ordered _ original tail hwhole base hbase
      have hbaseMem : base ∈ links.ids nodes := by
        rw [hwhole, Links.ids, List.map_append]
        exact List.mem_append_left _ hbaseEarlier
      have hfound := climb_eq_some hforest hreads base hbaseMem hparent
      have hplace := hforest.ancestor_earlier hwhole hbaseEarlier hfound.2.2.1
      obtain ⟨holder, hholder, hholderId⟩ := List.mem_map.mp hplace
      have hkept : removed (links.idOf holder) = false := by
        rw [hholderId]
        exact hfound.1
      rcases List.mem_append.mp hholder with hmem | hmem
      · rw [← hfront, Links.ids, List.map_map]
        apply List.mem_map.mpr
        refine ⟨holder, ?_, by simpa using hholderId⟩
        rw [← hfrontFilter]
        exact List.mem_filter.mpr ⟨hmem, by simp [hkept]⟩
      · have hnot := hskipped holder hmem
        simp [hkept] at hnot

theorem climb_mem {node : Node} (hmem : node ∈ nodes)
    (hclimb : climb nodes parentAt removed (links.parentOf node) = some above) :
    ∃ base, links.parentOf node = some base ∧ removed above = false ∧ above ∈ links.ids nodes ∧
      ReflTransGen (links.Parent nodes) above base ∧
      ∀ other, removed other = false → ReflTransGen (links.Parent nodes) other base →
        ReflTransGen (links.Parent nodes) other above := by
  cases hbase : links.parentOf node with
  | none => simp [hbase] at hclimb
  | some base =>
    have hbaseMem := hforest.parent_mem ⟨node, hmem, rfl, hbase⟩
    rw [hbase] at hclimb
    exact ⟨base, rfl, climb_eq_some hforest hreads base hbaseMem hclimb⟩

theorem parent_prune_mem (hparent : links.Parent (prune links parentAt removed nodes) above below) :
    above ∈ links.ids (prune links parentAt removed nodes) :=
  (isForest_prune hforest hreads).parent_mem hparent

theorem climb_none_iff {node : Node} (hmem : node ∈ nodes) :
    climb nodes parentAt removed (links.parentOf node) = none ↔
      ∀ above, TransGen (links.Parent nodes) above (links.idOf node) → removed above = true := by
  constructor
  · intro hclimb above habove
    obtain ⟨base, hfirst, hlast⟩ := tail'_iff.mp habove
    obtain ⟨other, hother, hotherId, hbase⟩ := hlast
    have hsame := hforest.eq_of_idOf_eq hmem hother hotherId.symm
    subst hsame
    have hbaseMem := hforest.parent_mem ⟨node, hmem, rfl, hbase⟩
    rw [hbase] at hclimb
    exact climb_eq_none hforest hreads base hbaseMem hclimb hfirst
  · intro hall
    cases hclimb : climb nodes parentAt removed (links.parentOf node) with
    | none => rfl
    | some above =>
      obtain ⟨base, hbase, hkept, -, habove, -⟩ := climb_mem hforest hreads hmem hclimb
      have hremoved := hall above (tail' habove ⟨node, hmem, rfl, hbase⟩)
      rw [hkept] at hremoved
      cases hremoved

theorem ancestor_prune_iff (habove : removed above = false) (hbelow : removed below = false) :
    TransGen (links.Parent (prune links parentAt removed nodes)) above below ↔
      TransGen (links.Parent nodes) above below := by
  constructor
  · intro hancestor
    have hold : ∀ {upper lower : Id},
        links.Parent (prune links parentAt removed nodes) upper lower →
        TransGen (links.Parent nodes) upper lower := by
      intro upper lower hparent
      obtain ⟨node, hnode, -, hid, hclimb⟩ := parent_prune.mp hparent
      obtain ⟨base, hbase, -, -, hupper, -⟩ := climb_mem hforest hreads hnode hclimb
      exact tail' hupper ⟨node, hnode, hid, hbase⟩
    clear habove hbelow
    induction hancestor with
    | single hparent => exact hold hparent
    | tail _ hparent ih => exact ih.trans (hold hparent)
  · intro hancestor
    have hmem : below ∈ links.ids nodes := by
      obtain ⟨base, -, node, hnode, hid, -⟩ := tail'_iff.mp hancestor
      exact List.mem_map.mpr ⟨node, hnode, hid⟩
    induction hrank : (links.ids nodes).idxOf below using
      Nat.strong_induction_on generalizing below with
    | _ rank ih =>
      obtain ⟨base, hfirst, hlast⟩ := tail'_iff.mp hancestor
      obtain ⟨node, hnode, hid, hbase⟩ := hlast
      cases hclimb : climb nodes parentAt removed (links.parentOf node) with
      | none =>
        have hremoved := (climb_none_iff hforest hreads hnode).mp hclimb above (hid ▸ hancestor)
        rw [habove] at hremoved
        cases hremoved
      | some next =>
        obtain ⟨found, hfound, hkept, hnextMem, hnext, hnearest⟩ :=
          climb_mem hforest hreads hnode hclimb
        have hsame : found = base := Option.some.inj (hfound.symm.trans hbase)
        subst hsame
        have hedge : links.Parent (prune links parentAt removed nodes) next below :=
          parent_prune.mpr ⟨node, hnode, hbelow, hid, hclimb⟩
        rcases reflTransGen_iff_eq_or_transGen.mp (hnearest above habove hfirst) with heq | hstill
        · subst heq
          exact .single hedge
        · have hlt := hforest.rank_lt (tail' hnext ⟨node, hnode, hid, hbase⟩)
          exact (ih _ (hrank ▸ hlt) hkept hstill hnextMem rfl).tail hedge

end

end Pruning

section Lineages

variable {id : Option Id} {line : List Node}

theorem lineage_subset (hline : links.Lineage nodes id line) : line ⊆ nodes := by
  induction hline with
  | root => exact List.nil_subset _
  | child above node hmem _ ih =>
    exact List.append_subset.mpr ⟨ih, by simpa using hmem⟩

theorem lineage_none (hline : links.Lineage nodes none line) : line = [] := by
  cases hline
  rfl

theorem lineage_unique (hforest : links.IsForest nodes)
    {first second : List Node} (hfirst : links.Lineage nodes id first)
    (hsecond : links.Lineage nodes id second) : first = second := by
  induction hfirst generalizing second with
  | root =>
    cases hsecond with
    | root => rfl
  | child above node hmem habove ih =>
    generalize hid : some (links.idOf node) = id at hsecond
    cases hsecond with
    | root => cases hid
    | child otherAbove other hother hotherAbove =>
      have hsame := hforest.eq_of_idOf_eq hmem hother (Option.some.inj hid)
      subst hsame
      rw [ih hotherAbove]

theorem lineage_nodup [DecidableEq Id] (hforest : links.IsForest nodes)
    (hline : links.Lineage nodes id line) :
    line.Nodup ∧ ∀ below ∈ id, ∀ node ∈ line,
      ReflTransGen (links.Parent nodes) (links.idOf node) below := by
  induction hline with
  | root => exact ⟨List.nodup_nil, by simp⟩
  | child above node hmem hline ih =>
    have habove : ∀ upper ∈ above,
        TransGen (links.Parent nodes) (links.idOf upper) (links.idOf node) := by
      intro upper hupper
      cases hparent : links.parentOf node with
      | none =>
        rw [hparent] at hline
        rw [lineage_none hline] at hupper
        cases hupper
      | some base =>
        have hbase := ih.2 base (by simp [hparent]) upper hupper
        exact tail' hbase ⟨node, hmem, rfl, hparent⟩
    constructor
    · apply List.Nodup.append ih.1 (List.nodup_singleton node)
      intro upper hupper hsame
      rw [List.mem_singleton] at hsame
      subst hsame
      exact absurd (hforest.rank_lt (habove upper hupper)) (lt_irrefl _)
    · intro below hbelow upper hupper
      have hid : links.idOf node = below := by simpa using hbelow
      subst hid
      rcases List.mem_append.mp hupper with hupper | hupper
      · exact (habove upper hupper).to_reflTransGen
      · rw [List.mem_singleton] at hupper
        subst hupper
        exact .refl

variable {parentAt : Id → Option Id} {removed : Id → Bool} [DecidableEq Id]

theorem lineage_prune (hforest : links.IsForest nodes)
    (hreads : Reads links nodes parentAt) {id : Option Id} {line : List Node}
    (hline : links.Lineage nodes id line) :
    links.Lineage (prune links parentAt removed nodes) (climb nodes parentAt removed id)
      ((line.filter fun node => !removed (links.idOf node)).map fun node =>
        links.setParent node (climb nodes parentAt removed (links.parentOf node))) := by
  induction hline with
  | root =>
    rw [climb_none]
    exact .root
  | child above node hmem habove ih =>
    rw [climb_some hforest hreads (Links.IsForest.mem_ids hmem)]
    cases hremoved : removed (links.idOf node) with
    | true =>
      have hparent : parentAt (links.idOf node) = links.parentOf node := by
        ext upper
        rw [hreads]
        constructor
        · rintro ⟨other, hother, hid, hupper⟩
          rw [← hforest.eq_of_idOf_eq hother hmem hid]
          exact hupper
        · intro hupper
          exact ⟨node, hmem, rfl, hupper⟩
      simpa [List.filter_append, hremoved, hparent] using ih
    | false =>
      have hmemPrune : links.setParent node (climb nodes parentAt removed (links.parentOf node)) ∈
            prune links parentAt removed nodes := by
        apply List.mem_map_of_mem (f := fun node => links.setParent node
          (climb nodes parentAt removed (links.parentOf node)))
        exact List.mem_filter.mpr ⟨hmem, by simp [hremoved]⟩
      have hchild : links.Lineage _ _ _ := .child _ _ hmemPrune (by simpa using ih)
      simpa [List.filter_append, hremoved] using hchild

def ancestry (links : Links Node Id) (nodes : List Node) : ℕ → Option Id → List Node
  | 0, _ => []
  | _ + 1, none => []
  | fuel + 1, some id =>
    match nodes.find? fun node => links.idOf node = id with
    | none => []
    | some node => ancestry links nodes fuel (links.parentOf node) ++ [node]

theorem ancestry_isLineage (hforest : links.IsForest nodes) (fuel : ℕ)
    {id : Id} (hid : id ∈ links.ids nodes)
    (hfuel : (links.ids nodes).idxOf id < fuel) :
    links.Lineage nodes (some id) (ancestry links nodes (fuel + 1) (some id)) := by
  induction fuel generalizing id with
  | zero => omega
  | succ fuel ih =>
    obtain ⟨node, hmem, hnode⟩ := List.mem_map.mp hid
    have hfind : (nodes.find? fun node => links.idOf node = id) = some node := by
      cases hfound : nodes.find? fun node => links.idOf node = id with
      | none =>
        have hnot := List.find?_eq_none.mp hfound node hmem
        simp [hnode] at hnot
      | some other =>
        have hother := List.find?_some hfound
        have hsame := hforest.eq_of_idOf_eq (List.mem_of_find?_eq_some hfound)
          hmem (by simpa [hnode] using hother)
        rw [hsame]
    rw [ancestry, hfind]
    have habove : links.Lineage nodes (links.parentOf node)
        (ancestry links nodes (fuel + 1) (links.parentOf node)) := by
      cases hparent : links.parentOf node with
      | none => exact .root
      | some above =>
        have hedge : links.Parent nodes above id := ⟨node, hmem, hnode, hparent⟩
        have hlt := hforest.parent_lt hedge
        exact ih (hforest.parent_mem hedge) (by omega)
    rw [← hnode]
    exact .child _ node hmem habove

theorem ancestry_spec (hforest : links.IsForest nodes) {id : Id} (hid : id ∈ links.ids nodes) :
    links.Lineage nodes (some id) (ancestry links nodes (nodes.length + 1) (some id)) := by
  have hlt := List.idxOf_lt_length_of_mem hid
  rw [Links.ids, List.length_map] at hlt
  exact ancestry_isLineage hforest nodes.length hid hlt

end Lineages

end ParentForest
