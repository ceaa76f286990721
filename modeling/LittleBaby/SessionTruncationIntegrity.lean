import LittleBaby.SessionTruncation

/-!
# What a truncated session keeps

Whatever is removed, the kept entries form a tree with the same ancestors.
-/

namespace LittleBaby.SessionTruncation

open JsString ParentForest Relation SessionEntry

variable {Message Body : Type*}

def SessionEntry.content (entry : SessionEntry Message Body) : JsString × EntryKind Message Body :=
  (entry.id, entry.kind)

def SessionEntry.refersTo (entry : SessionEntry Message Body) : Option JsString :=
  match entry.kind with
  | .label targetId _ => some targetId
  | .branchSummary _ => entry.parentId
  | _ => none

section Statement

variable (manager : SessionManager Message Body) (entries : List (SessionEntry Message Body))

def latestOf : ℕ := (latestCompactionIdx (manager.getBranch entries)).getD 0

/-- The `firstKeptEntryId` of the latest compaction; an empty one counts as none. -/
def anchorOf : Option JsString :=
  ((manager.getBranch entries)[latestOf manager entries]?.bind
    firstKeptEntryId).filter fun id => id ≠ []

def IsSummarized (entry : SessionEntry Message Body) : Prop :=
  entry ∈ ((manager.getBranch entries).take (latestOf manager entries)).takeWhile
      (fun earlier => anchorOf manager entries ≠ some earlier.id) ∧
    entry.isMessage = true

/-- A label of a summarised message, or a branch summary that hangs off one. -/
def IsAttached (entry : SessionEntry Message Body) : Prop :=
  ∃ message, IsSummarized manager entries message ∧ entry.refersTo = some message.id

def activeTail : List (SessionEntry Message Body) :=
  if ∃ entry ∈ manager.getBranch entries, anchorOf manager entries = some entry.id then
    (manager.getBranch entries).dropWhile fun entry =>
      anchorOf manager entries ≠ some entry.id
  else (manager.getBranch entries).drop (latestOf manager entries)

structure Preserves (kept : List (SessionEntry Message Body)) : Prop where
  contents : (kept.map content).Sublist (entries.map content)
  parents : ∀ entry ∈ kept, ∀ parentId, entry.parentId = some parentId → parentId ∈ links.ids kept
  roots : ∀ entry ∈ kept, entry.parentId = none →
    ∀ above, TransGen (links.Parent entries) above entry.id → above ∉ links.ids kept
  labels : ∀ entry ∈ kept, ∀ targetId body, entry.kind = .label targetId body →
    targetId ∈ links.ids kept
  anchor : ∀ id, anchorOf manager entries = some id → id ∈ links.ids kept
  tail : ((activeTail manager entries).map content) <:+ (manager.getBranch kept).map content
  removed : ∀ entry ∈ entries, entry.id ∉ links.ids kept →
    IsSummarized manager entries entry ∨ IsAttached manager entries entry
  ancestors : ∀ above ∈ links.ids kept, ∀ below ∈ links.ids kept,
    TransGen (links.Parent kept) above below ↔ TransGen (links.Parent entries) above below

/-- Nothing needs a label or a branch summary that goes with the messages. -/
structure NothingLost : Prop where
  targets : ∀ entry ∈ entries, ∀ targetId body,
    entry.kind = .label targetId body → targetId ∈ links.ids entries
  chains : ∀ entry ∈ entries, IsAttached manager entries entry →
    ∀ other ∈ entries, other.refersTo ≠ some entry.id
  anchor : ∀ id, anchorOf manager entries = some id →
    ∃ entry ∈ entries, entry.id = id ∧ ¬ IsAttached manager entries entry
  tail : ∀ entry ∈ activeTail manager entries, ¬ IsAttached manager entries entry

end Statement

theorem mem_summarizedBranchIds (firstKeptEntryId : Option JsString) (id : JsString)
    (branch : List (SessionEntry Message Body)) (ids : Finset JsString) :
    id ∈ summarizedBranchIds firstKeptEntryId branch ids ↔
      id ∈ ids ∨ id ∈ (branch.takeWhile fun entry =>
        !isFirstKept firstKeptEntryId entry).map SessionEntry.id := by
  induction branch generalizing ids with
  | nil => simp [summarizedBranchIds]
  | cons entry rest ih =>
    cases hfirst : isFirstKept firstKeptEntryId entry with
    | true => simp [summarizedBranchIds, hfirst]
    | false =>
      rw [summarizedBranchIds, hfirst, if_neg (by simp), ih,
        List.takeWhile_cons_of_pos (by simp [hfirst])]
      simp only [Finset.mem_insert, List.map_cons, List.mem_cons]
      tauto

theorem mem_removeMessages (summarized : Finset JsString) (id : JsString)
    (entries : List (SessionEntry Message Body)) :
    id ∈ removeMessages summarized entries ↔
      ∃ entry ∈ entries, entry.id = id ∧ id ∈ summarized ∧ entry.isMessage = true := by
  have hfold : ∀ removed : Finset JsString, id ∈ entries.foldl (fun removed entry =>
        if entry.id ∈ summarized ∧ entry.isMessage then insert entry.id removed
        else removed) removed ↔
      id ∈ removed ∨ ∃ entry ∈ entries, entry.id = id ∧ id ∈ summarized ∧
        entry.isMessage = true := by
    induction entries with
    | nil => simp
    | cons entry rest ih =>
      intro removed
      rw [List.foldl_cons, ih]
      by_cases hremove : entry.id ∈ summarized ∧ entry.isMessage = true
      · rw [if_pos hremove, Finset.mem_insert]
        constructor
        · rintro ((rfl | hmem) | ⟨other, hother, hrest⟩)
          · exact .inr ⟨entry, by simp, rfl, hremove⟩
          · exact .inl hmem
          · exact .inr ⟨other, List.mem_cons_of_mem _ hother, hrest⟩
        · rintro (hmem | ⟨other, hother, hid, hrest⟩)
          · exact .inl (.inr hmem)
          · rcases List.mem_cons.mp hother with rfl | hother
            · exact .inl (.inl hid.symm)
            · exact .inr ⟨other, hother, hid, hrest⟩
      · rw [if_neg hremove]
        constructor
        · rintro (hmem | ⟨other, hother, hrest⟩)
          · exact .inl hmem
          · exact .inr ⟨other, List.mem_cons_of_mem _ hother, hrest⟩
        · rintro (hmem | ⟨other, hother, hid, hrest⟩)
          · exact .inl hmem
          · rcases List.mem_cons.mp hother with rfl | hother
            · exact absurd (hid ▸ hrest) hremove
            · exact .inr ⟨other, hother, hid, hrest⟩
  rw [removeMessages, hfold]
  simp

theorem removeHeartbeats_eq (params : TruncationParams Message)
    (summarized removed : Finset JsString)
    (branch : List (SessionEntry Message Body))
    (hgone : ∀ entry ∈ branch, entry.isMessage = true → entry.id ∈ summarized →
      entry.id ∈ removed) :
    removeHeartbeats params summarized branch removed = removed := by
  induction branch with
  | nil => rfl
  | cons user rest ih =>
    have hrest := ih fun entry hmem =>
      hgone entry (List.mem_cons_of_mem _ hmem)
    cases rest with
    | nil => rfl
    | cons assistant rest =>
      rw [removeHeartbeats]
      split
      next message reply huser hassistant =>
        split
        next hpair =>
          have hmem := hgone user List.mem_cons_self (by simp [isMessage, huser]) hpair.1
          exact absurd hmem hpair.2.2.1
        next => exact hrest
      next => exact hrest

theorem removeReference_eq (removed : Finset JsString) (entry : SessionEntry Message Body) :
    removeReference removed entry = if entry.refersTo.any fun id => decide (id ∈ removed) then
        insert entry.id removed
      else removed := by
  unfold removeReference refersTo
  cases entry.kind with
  | branchSummary body => cases entry.parentId <;> simp
  | _ => simp

section References

variable {removed : Finset JsString} {entries : List (SessionEntry Message Body)}

theorem subset_removeReference (entry : SessionEntry Message Body) :
    removed ⊆ removeReference removed entry := by
  rw [removeReference_eq]
  split
  · exact Finset.subset_insert _ _
  · exact Finset.Subset.refl _

theorem subset_removeReferences : removed ⊆ entries.foldl removeReference removed := by
  induction entries generalizing removed with
  | nil => exact Finset.Subset.refl _
  | cons entry rest ih =>
    exact (subset_removeReference entry).trans ih

theorem mem_removeReferences (earlier later : List (SessionEntry Message Body))
    (entry : SessionEntry Message Body) {id : JsString}
    (hrefers : entry.refersTo = some id)
    (hremoved : id ∈ earlier.foldl removeReference removed) :
    entry.id ∈ (earlier ++ entry :: later).foldl removeReference removed := by
  rw [List.foldl_append, List.foldl_cons]
  apply subset_removeReferences
  rw [removeReference_eq, hrefers, if_pos (by simpa using hremoved)]
  exact Finset.mem_insert_self _ _

theorem mem_removeReferences_of_mem {entry : SessionEntry Message Body}
    (hmem : entry ∈ entries) {id : JsString}
    (hrefers : entry.refersTo = some id) (hremoved : id ∈ removed) :
    entry.id ∈ entries.foldl removeReference removed := by
  obtain ⟨earlier, later, hsplit⟩ := List.append_of_mem hmem
  rw [hsplit]
  exact mem_removeReferences earlier later entry hrefers (subset_removeReferences hremoved)

theorem removeReferences_subset {property : JsString → Prop}
    (hremoved : ∀ id ∈ removed, property id)
    (hclosed : ∀ entry ∈ entries, ∀ id, entry.refersTo = some id → property id →
      property entry.id) :
    ∀ id ∈ entries.foldl removeReference removed, property id := by
  induction entries generalizing removed with
  | nil => exact hremoved
  | cons entry rest ih =>
    apply ih
    · intro id hid
      rw [removeReference_eq] at hid
      cases hrefers : entry.refersTo with
      | none => exact hremoved id (by simpa [hrefers] using hid)
      | some target =>
        rw [hrefers, Option.any_some] at hid
        split at hid
        next htarget =>
          rcases Finset.mem_insert.mp hid with rfl | hid
          · exact hclosed entry List.mem_cons_self target hrefers
              (hremoved target (by simpa using htarget))
          · exact hremoved id hid
        next => exact hremoved id hid
    · intro other hother
      exact hclosed other (List.mem_cons_of_mem _ hother)

end References

section Removed

variable {manager : SessionManager Message Body} {params : TruncationParams Message}
  {entries : List (SessionEntry Message Body)}

def removedOf (manager : SessionManager Message Body) (params : TruncationParams Message)
    (entries : List (SessionEntry Message Body)) : Finset JsString :=
  removedIds params (manager.getBranch entries) entries (latestOf manager entries)
    ((manager.getBranch entries)[latestOf manager entries]?.bind firstKeptEntryId)

def messagesOf (manager : SessionManager Message Body)
    (entries : List (SessionEntry Message Body)) : Finset JsString :=
  removeMessages (summarizedBranchIds ((manager.getBranch entries)[latestOf manager entries]?.bind
      firstKeptEntryId)
      ((manager.getBranch entries).take (latestOf manager entries)) ∅) entries

theorem branch_subset (hforest : links.IsForest entries) : manager.getBranch entries ⊆ entries :=
  lineage_subset (manager.getBranch_lineage entries hforest)

theorem isFirstKept_eq (entry : SessionEntry Message Body) :
    isFirstKept ((manager.getBranch entries)[latestOf manager entries]?.bind
      firstKeptEntryId) entry = decide (anchorOf manager entries = some entry.id) := by
  unfold anchorOf isFirstKept
  cases (manager.getBranch entries)[latestOf manager entries]?.bind firstKeptEntryId with
  | none => simp
  | some id =>
    by_cases hempty : id = []
    · simp [hempty]
    · by_cases hid : id = entry.id
      · subst hid
        simp [hempty]
      · have hne : entry.id ≠ id := fun heq => hid heq.symm
        simp [hempty, hid, hne]

theorem mem_messagesOf (hforest : links.IsForest entries) {id : JsString} :
    id ∈ messagesOf manager entries ↔
      ∃ message, IsSummarized manager entries message ∧ message.id = id := by
  rw [messagesOf, mem_removeMessages]
  constructor
  · rintro ⟨entry, hentry, hid, hsummarized, hmessage⟩
    rw [mem_summarizedBranchIds] at hsummarized
    rcases hsummarized with habsurd | hsummarized
    · simp at habsurd
    · obtain ⟨other, hother, hotherId⟩ := List.mem_map.mp hsummarized
      have hbranch : other ∈ entries := branch_subset hforest
        (List.mem_of_mem_take (List.takeWhile_subset _ hother))
      have hsame := hforest.eq_of_idOf_eq hbranch hentry (hotherId.trans hid.symm)
      subst hsame
      refine ⟨other, ⟨?_, hmessage⟩, hid⟩
      simpa [isFirstKept_eq] using hother
  · rintro ⟨message, ⟨hmem, hmessage⟩, rfl⟩
    have hbranch : message ∈ entries := branch_subset hforest
      (List.mem_of_mem_take (List.takeWhile_subset _ hmem))
    refine ⟨message, hbranch, rfl, ?_, hmessage⟩
    rw [mem_summarizedBranchIds]
    right
    apply List.mem_map_of_mem
    simpa [isFirstKept_eq] using hmem

theorem removedOf_eq (hforest : links.IsForest entries) : removedOf manager params entries =
      entries.foldl removeReference (messagesOf manager entries) := by
  suffices hheartbeats : removeHeartbeats params (summarizedBranchIds
        ((manager.getBranch entries)[latestOf manager entries]?.bind firstKeptEntryId)
        ((manager.getBranch entries).take (latestOf manager entries)) ∅)
      (manager.getBranch entries) (messagesOf manager entries) = messagesOf manager entries by
    exact congrArg (List.foldl removeReference · entries) hheartbeats
  apply removeHeartbeats_eq
  intro entry hentry hmessage hsummarized
  rw [messagesOf, mem_removeMessages]
  exact ⟨entry, branch_subset hforest hentry, rfl, hsummarized, hmessage⟩

variable {entry : SessionEntry Message Body}

theorem refersTo_of_isMessage (hmessage : entry.isMessage = true) : entry.refersTo = none := by
  unfold isMessage at hmessage
  unfold refersTo
  cases hkind : entry.kind <;> simp_all

section

variable (hforest : links.IsForest entries)
include hforest

theorem attached_removed (hentry : entry ∈ entries) (hattached : IsAttached manager entries entry) :
    entry.id ∈ removedOf manager params entries := by
  obtain ⟨message, hmessage, hrefers⟩ := hattached
  rw [removedOf_eq hforest]
  apply mem_removeReferences_of_mem hentry hrefers
  exact (mem_messagesOf hforest).mpr ⟨message, hmessage, rfl⟩

theorem summarized_mem {message : SessionEntry Message Body}
    (hmessage : IsSummarized manager entries message) : message ∈ entries :=
  branch_subset hforest (List.mem_of_mem_take (List.takeWhile_subset _ hmessage.1))

theorem removed_of_no_chains (hchains : ∀ entry ∈ entries, IsAttached manager entries entry →
      ∀ other ∈ entries, other.refersTo ≠ some entry.id)
    (hentry : entry ∈ entries)
    (hremoved : entry.id ∈ removedOf manager params entries) :
    IsSummarized manager entries entry ∨ IsAttached manager entries entry := by
  have hall : ∀ id ∈ removedOf manager params entries,
      ∃ other ∈ entries, other.id = id ∧ (IsSummarized manager entries other ∨
          IsAttached manager entries other) := by
    rw [removedOf_eq hforest]
    apply removeReferences_subset
    · intro id hid
      obtain ⟨message, hmessage, hmessageId⟩ := (mem_messagesOf hforest).mp hid
      exact ⟨message, summarized_mem hforest hmessage, hmessageId, .inl hmessage⟩
    · intro other hother id hrefers
      rintro ⟨target, htarget, rfl, hsummarized | hattached⟩
      · exact ⟨other, hother, rfl, .inr ⟨target, hsummarized, hrefers⟩⟩
      · exact absurd hrefers (hchains target htarget hattached other hother)
  obtain ⟨other, hother, hid, hwhy⟩ := hall _ hremoved
  rw [← hforest.eq_of_idOf_eq hother hentry hid]
  exact hwhy

theorem not_refersTo_attached {other : SessionEntry Message Body} (hentry : entry ∈ entries)
    (hattached : IsAttached manager entries entry)
    (hrefers : other.refersTo = some entry.id) :
    ¬ IsSummarized manager entries other ∧ ¬ IsAttached manager entries other := by
  constructor
  · intro hsummarized
    rw [refersTo_of_isMessage hsummarized.2] at hrefers
    cases hrefers
  · rintro ⟨message, hmessage, hother⟩
    rw [hrefers, Option.some.injEq] at hother
    have hsame := hforest.eq_of_idOf_eq hentry (summarized_mem hforest hmessage) hother
    subst hsame
    obtain ⟨target, -, htarget⟩ := hattached
    rw [refersTo_of_isMessage hmessage.2] at htarget
    cases htarget

theorem activeTail_not_summarized (hentry : entry ∈ activeTail manager entries) :
    ¬ IsSummarized manager entries entry := by
  intro hsummarized
  have hnodup := (lineage_nodup hforest (manager.getBranch_lineage entries hforest)).1
  unfold activeTail at hentry
  split at hentry
  · have hbefore : entry ∈ (manager.getBranch entries).takeWhile fun earlier =>
        anchorOf manager entries ≠ some earlier.id := by
      have htaken := hsummarized.1
      rw [← List.take_takeWhile] at htaken
      exact List.mem_of_mem_take htaken
    rw [← List.takeWhile_append_dropWhile (p := fun earlier =>
      decide (anchorOf manager entries ≠ some earlier.id))
        (l := manager.getBranch entries)] at hnodup
    exact List.disjoint_of_nodup_append hnodup hbefore hentry
  · have hbefore := List.takeWhile_subset _ hsummarized.1
    rw [← List.take_append_drop (latestOf manager entries) (manager.getBranch entries)] at hnodup
    exact List.disjoint_of_nodup_append hnodup hbefore hentry

end

end Removed

section Kept

variable {manager : SessionManager Message Body} {entries : List (SessionEntry Message Body)}

theorem reads_parentById (hforest : links.IsForest entries) :
    Reads links entries (parentById entries) := by
  intro above id
  unfold parentById
  constructor
  · intro hparent
    obtain ⟨entry, hfind, habove⟩ := Option.bind_eq_some_iff.mp hparent
    have hmem := List.mem_of_find?_eq_some hfind
    have hid := List.find?_some hfind
    exact ⟨entry, by simpa using hmem, by simpa using hid, habove⟩
  · rintro ⟨entry, hmem, hid, habove⟩
    cases hfind : entries.reverse.find? fun entry => entry.id = id with
    | none =>
      have hnot := List.find?_eq_none.mp hfind entry (by simpa using hmem)
      exact absurd hid (by simpa using hnot)
    | some other =>
      have hother := List.mem_of_find?_eq_some hfind
      have hotherId := List.find?_some hfind
      have hsame := hforest.eq_of_idOf_eq hmem (by simpa using hother)
        (hid.trans (by simpa [eq_comm] using hotherId))
      subst hsame
      exact habove

theorem keptEntries_eq (removed : Finset JsString) : keptEntries entries removed =
      prune links (parentById entries) (fun id => decide (id ∈ removed)) entries := by
  unfold keptEntries prune climb
  rw [← List.filterMap_eq_map, List.filterMap_filter]
  apply List.filterMap_congr
  intro entry _
  by_cases hremoved : entry.id ∈ removed
  · simp [hremoved]
  · have hsame : entry = { entry with parentId := entry.parentId } := rfl
    split <;> simp_all

variable {removed : Finset JsString}

theorem mem_ids_keptEntries {id : JsString} : id ∈ links.ids (keptEntries entries removed) ↔
      id ∈ links.ids entries ∧ id ∉ removed := by
  rw [keptEntries_eq, mem_ids_prune, decide_eq_false_iff_not]

theorem mem_keptEntries {kept : SessionEntry Message Body} :
    kept ∈ keptEntries entries removed ↔ ∃ entry ∈ entries, entry.id ∉ removed ∧ { entry with
          parentId := climb entries (parentById entries)
            (fun id => decide (id ∈ removed)) entry.parentId } = kept := by
  rw [keptEntries_eq, prune, List.mem_map]
  simp [and_assoc]

theorem contents_keptEntries : ((keptEntries entries removed).map content).Sublist
      (entries.map content) := by
  rw [keptEntries_eq, prune, List.map_map]
  exact List.filter_sublist.map content

theorem latestCompactionBefore_lt {branch : List (SessionEntry Message Body)} {bound latest : ℕ}
    (hlatest : latestCompactionBefore branch bound = some latest) :
    latest < branch.length := by
  induction bound with
  | zero => cases hlatest
  | succ bound ih =>
    rw [latestCompactionBefore] at hlatest
    split at hlatest
    next hany =>
      have hbound := Option.some.inj hlatest
      rw [hbound] at hany
      cases hentry : branch[latest]? with
      | none => simp [hentry] at hany
      | some entry => exact (List.getElem?_eq_some_iff.mp hentry).choose
    next => exact ih hlatest

theorem truncate_ok {params : TruncationParams Message}
    {file : SessionFile Message Body} {result : Truncation Message Body}
    (htruncate : truncateSessionAfterCompaction manager params file = .ok result) :
    result.file.entries = keptEntries file.entries (removedOf manager params file.entries) ∧
      latestOf manager file.entries < (manager.getBranch file.entries).length := by
  unfold truncateSessionAfterCompaction at htruncate
  simp only at htruncate
  split at htruncate
  · cases htruncate
  split at htruncate
  · cases htruncate
  split at htruncate
  · cases htruncate
  · cases htruncate
  next latest hpositive hlatest =>
    have hlatestOf : latestOf manager file.entries = latest := by
      simp [latestOf, hlatest]
    split at htruncate
    · cases htruncate
    · cases htruncate
      constructor
      · rw [removedOf, hlatestOf]
      · rw [hlatestOf]
        exact latestCompactionBefore_lt hlatest

end Kept

section Preserved

variable {manager : SessionManager Message Body} {params : TruncationParams Message}
  {entries : List (SessionEntry Message Body)}

theorem activeTail_suffix : activeTail manager entries <:+ manager.getBranch entries := by
  unfold activeTail
  split
  · exact List.dropWhile_suffix _
  · exact List.drop_suffix _ _

theorem activeTail_ne_nil
    (hlatest : latestOf manager entries < (manager.getBranch entries).length) :
    activeTail manager entries ≠ [] := by
  unfold activeTail
  split
  next hanchor =>
    obtain ⟨entry, hentry, hid⟩ := hanchor
    intro hnil
    have hall := List.dropWhile_eq_nil_iff.mp hnil entry hentry
    simp [hid] at hall
  next =>
    intro hnil
    have hlength := congrArg List.length hnil
    rw [List.length_drop, List.length_nil] at hlength
    omega

section

variable (hforest : links.IsForest entries)
include hforest

theorem getBranch_last (hne : manager.getBranch entries ≠ []) :
    ∃ earlier leaf above, entries = earlier ++ [leaf] ∧
      manager.getBranch entries = above ++ [leaf] := by
  have hline := manager.getBranch_lineage entries hforest
  rcases List.eq_nil_or_concat entries with hnil | ⟨earlier, leaf, hentries⟩
  · rw [hnil, List.getLast?_nil, Option.map_none, ← hnil] at hline
    exact absurd (lineage_none hline) hne
  · rw [List.concat_eq_append] at hentries
    have hlast : entries.getLast? = some leaf := by simp [hentries]
    rw [hlast, Option.map_some] at hline
    generalize hid : some leaf.id = id at hline
    generalize hbranch : manager.getBranch entries = branch at hline hne
    cases hline with
    | root => cases hid
    | child above node hmem habove =>
      have hleaf : leaf ∈ entries := by simp [hentries]
      have hsame := hforest.eq_of_idOf_eq hleaf hmem (Option.some.inj hid)
      subst hsame
      exact ⟨earlier, leaf, above, hentries, rfl⟩

theorem tail_preserved (hlatest : latestOf manager entries < (manager.getBranch entries).length)
    {removed : Finset JsString}
    (htail : ∀ entry ∈ activeTail manager entries, entry.id ∉ removed) :
    ((activeTail manager entries).map SessionEntry.content) <:+
      (manager.getBranch (keptEntries entries removed)).map SessionEntry.content := by
  have hreads := reads_parentById hforest
  obtain ⟨before, hbefore⟩ : activeTail manager entries <:+
    manager.getBranch entries := activeTail_suffix
  have hne : manager.getBranch entries ≠ [] := List.ne_nil_of_length_pos (by omega)
  obtain ⟨earlier, leaf, above, hentries, hbranch⟩ := getBranch_last hforest hne
  have hleaf : leaf.id ∉ removed := by
    apply htail
    have hlast := congrArg List.getLast? (hbefore.trans hbranch)
    rw [List.getLast?_append_of_ne_nil _ (activeTail_ne_nil hlatest), List.getLast?_concat] at hlast
    exact List.mem_of_getLast? hlast
  have hline := manager.getBranch_lineage entries hforest
  have hlast : entries.getLast? = some leaf := by simp [hentries]
  rw [hlast, Option.map_some] at hline
  have hpruned := @lineage_prune _ _ _ _ _ (fun id => decide (id ∈ removed)) _
    hforest hreads _ _ hline
  have hleafMem : leaf.id ∈ links.ids entries := by
    simp [Links.ids, hentries]
  rw [climb_some hforest hreads hleafMem, if_neg (by simpa using hleaf)] at hpruned
  have hnewLine := manager.getBranch_lineage _
    (@isForest_prune _ _ _ _ _ (fun id => decide (id ∈ removed)) _ hforest hreads)
  have hnewLast : (prune links (parentById entries)
      (fun id => decide (id ∈ removed)) entries).getLast?.map SessionEntry.id = some leaf.id := by
    have hfilter : entries.filter (fun node => !decide (links.idOf node ∈ removed)) =
        earlier.filter (fun node => !decide (links.idOf node ∈ removed)) ++ [leaf] := by
      rw [hentries, List.filter_append]
      simp [hleaf]
    rw [prune, hfilter]
    simp
  rw [hnewLast] at hnewLine
  have hsame := lineage_unique (isForest_prune hforest hreads) hnewLine hpruned
  rw [keptEntries_eq, hsame, ← hbefore, List.filter_append, List.map_append,
    List.map_append, List.map_map]
  have hfilter : (activeTail manager entries).filter
      (fun node => !decide (links.idOf node ∈ removed)) = activeTail manager entries :=
    List.filter_eq_self.mpr fun entry hentry => by
      simpa using htail entry hentry
  rw [hfilter, List.map_map]
  exact List.suffix_append _ _

theorem kept_is_tree (removed : Finset JsString) :
    (∀ entry ∈ keptEntries entries removed, ∀ parentId, entry.parentId = some parentId →
        parentId ∈ links.ids (keptEntries entries removed)) ∧
    (∀ entry ∈ keptEntries entries removed, entry.parentId = none →
      ∀ above, TransGen (links.Parent entries) above entry.id →
        above ∉ links.ids (keptEntries entries removed)) ∧
    ∀ above ∈ links.ids (keptEntries entries removed),
      ∀ below ∈ links.ids (keptEntries entries removed),
      TransGen (links.Parent (keptEntries entries removed)) above below ↔
        TransGen (links.Parent entries) above below := by
  have hreads := reads_parentById hforest
  constructor
  · intro entry hentry parentId hparent
    rw [keptEntries_eq] at hentry ⊢
    exact parent_prune_mem hforest hreads ⟨entry, hentry, rfl, hparent⟩
  constructor
  · intro entry hentry hroot above habove hkept
    obtain ⟨old, hold, -, rfl⟩ := mem_keptEntries.mp hentry
    have hremoved := (climb_none_iff hforest hreads hold).mp hroot above habove
    have hnot := (mem_ids_keptEntries.mp hkept).2
    exact hnot (by simpa using hremoved)
  · intro above habove below hbelow
    have haboveKept := (mem_ids_keptEntries.mp habove).2
    have hbelowKept := (mem_ids_keptEntries.mp hbelow).2
    rw [keptEntries_eq]
    exact ancestor_prune_iff hforest hreads (by simpa using haboveKept) (by simpa using hbelowKept)

theorem preserves_of_nothingLost
    (hlatest : latestOf manager entries < (manager.getBranch entries).length)
    (hnothing : NothingLost manager entries) :
    Preserves manager entries (keptEntries entries (removedOf manager params entries)) := by
  have htree := kept_is_tree hforest (removedOf manager params entries)
  have hwhy : ∀ entry ∈ entries, entry.id ∈ removedOf manager params entries →
      IsSummarized manager entries entry ∨ IsAttached manager entries entry :=
    fun entry hentry => removed_of_no_chains hforest hnothing.chains hentry
  constructor
  case contents => exact contents_keptEntries
  case parents => exact htree.1
  case roots => exact htree.2.1
  case ancestors => exact htree.2.2
  case labels =>
    intro kept hkept targetId body hkind
    obtain ⟨entry, hentry, hnot, rfl⟩ := mem_keptEntries.mp hkept
    have hrefers : entry.refersTo = some targetId := by
      simp only at hkind
      simp [refersTo, hkind]
    have htarget := hnothing.targets entry hentry targetId body hkind
    refine mem_ids_keptEntries.mpr ⟨htarget, ?_⟩
    intro hremoved
    obtain ⟨target, htargetMem, rfl⟩ := List.mem_map.mp htarget
    rcases hwhy target htargetMem hremoved with hsummarized | hattached
    · exact hnot (attached_removed hforest hentry ⟨target, hsummarized, hrefers⟩)
    · exact hnothing.chains target htargetMem hattached entry hentry hrefers
  case anchor =>
    intro id hanchor
    obtain ⟨entry, hentry, rfl, hfree⟩ := hnothing.anchor id hanchor
    refine mem_ids_keptEntries.mpr ⟨Links.IsForest.mem_ids hentry, ?_⟩
    intro hremoved
    rcases hwhy entry hentry hremoved with hsummarized | hattached
    · have hbefore := List.mem_takeWhile_imp hsummarized.1
      simp [hanchor] at hbefore
    · exact hfree hattached
  case tail =>
    apply tail_preserved hforest hlatest
    intro entry hentry hremoved
    have hmem := branch_subset hforest (activeTail_suffix.subset hentry)
    rcases hwhy entry hmem hremoved with hsummarized | hattached
    · exact activeTail_not_summarized hforest hentry hsummarized
    · exact hnothing.tail entry hentry hattached
  case removed =>
    intro entry hentry hnot
    apply hwhy entry hentry
    by_contra hkept
    exact hnot (mem_ids_keptEntries.mpr ⟨Links.IsForest.mem_ids hentry, hkept⟩)

theorem nothingLost_of_preserves (hpreserves : Preserves manager entries
      (keptEntries entries (removedOf manager params entries))) :
    NothingLost manager entries := by
  have hreads := reads_parentById hforest
  have hkeptFree : ∀ entry ∈ entries, entry.id ∈ links.ids (keptEntries entries
        (removedOf manager params entries)) →
      ¬ IsAttached manager entries entry := by
    intro entry hentry hkept hattached
    exact (mem_ids_keptEntries.mp hkept).2 (attached_removed hforest hentry hattached)
  have hwhy : ∀ entry ∈ entries, entry.id ∈ removedOf manager params entries →
      IsSummarized manager entries entry ∨ IsAttached manager entries entry := by
    intro entry hentry hremoved
    apply hpreserves.removed entry hentry
    intro hkept
    exact (mem_ids_keptEntries.mp hkept).2 hremoved
  have hlabel : ∀ entry ∈ entries, entry.id ∉ removedOf manager params entries → ∀ targetId body,
      entry.kind = .label targetId body →
      targetId ∈ links.ids (keptEntries entries (removedOf manager params entries)) := by
    intro entry hentry hkept targetId body hkind
    exact hpreserves.labels _ (mem_keptEntries.mpr ⟨entry, hentry, hkept, rfl⟩) targetId body hkind
  constructor
  case targets =>
    intro entry hentry targetId body hkind
    by_cases hremoved : entry.id ∈ removedOf manager params entries
    · rcases hwhy entry hentry hremoved with hsummarized | hattached
      · have hmessage := hsummarized.2
        simp [isMessage, hkind] at hmessage
      · obtain ⟨message, hmessage, hrefers⟩ := hattached
        have htarget : targetId = message.id := by
          simpa [refersTo, hkind] using hrefers
        rw [htarget]
        exact Links.IsForest.mem_ids (summarized_mem hforest hmessage)
    · exact (mem_ids_keptEntries.mp (hlabel entry hentry hremoved targetId body hkind)).1
  case chains =>
    intro entry hentry hattached other hother hrefers
    have hgone : entry.id ∈ removedOf manager params entries :=
      attached_removed hforest hentry hattached
    have hfree := not_refersTo_attached hforest hentry hattached hrefers
    by_cases hremoved : other.id ∈ removedOf manager params entries
    · rcases hwhy other hother hremoved with hsummarized | hotherAttached
      · exact hfree.1 hsummarized
      · exact hfree.2 hotherAttached
    · unfold refersTo at hrefers
      split at hrefers
      next targetId body hkind =>
        have htarget := hlabel other hother hremoved targetId body hkind
        rw [Option.some.inj hrefers] at htarget
        exact (mem_ids_keptEntries.mp htarget).2 hgone
      next body hkind =>
        -- A branch summary comes after its parent, so the pass has seen the
        -- removal of the parent.
        obtain ⟨earlier, later, hsplit⟩ := List.append_of_mem hother
        have hparent := hforest.ordered earlier other later hsplit entry.id hrefers
        obtain ⟨holder, hholder, hholderId⟩ := List.mem_map.mp hparent
        have hsame : holder = entry := by
          apply hforest.eq_of_idOf_eq _ hentry hholderId
          rw [hsplit]
          exact List.mem_append_left _ hholder
        subst hsame
        obtain ⟨message, hmessage, hmessageRefers⟩ := hattached
        have hearlier := mem_removeReferences_of_mem hholder hmessageRefers
          ((mem_messagesOf hforest).mpr ⟨message, hmessage, rfl⟩)
        apply hremoved
        rw [removedOf_eq hforest, hsplit]
        have hotherRefers : other.refersTo = some holder.id := by
          simp [refersTo, hkind, hrefers]
        rw [hsplit] at hearlier
        exact mem_removeReferences earlier later other hotherRefers hearlier
      next => cases hrefers
  case anchor =>
    intro id hanchor
    have hkept := hpreserves.anchor id hanchor
    obtain ⟨entry, hentry, rfl⟩ := List.mem_map.mp (mem_ids_keptEntries.mp hkept).1
    exact ⟨entry, hentry, rfl, hkeptFree entry hentry hkept⟩
  case tail =>
    intro entry hentry
    have hmem := branch_subset hforest (activeTail_suffix.subset hentry)
    apply hkeptFree entry hmem
    have hcontent := hpreserves.tail.subset (List.mem_map_of_mem (f := content) hentry)
    obtain ⟨kept, hkept, hsame⟩ := List.mem_map.mp hcontent
    have hid : kept.id = entry.id := congrArg Prod.fst hsame
    rw [← hid]
    apply List.mem_map_of_mem
    refine branch_subset ?_ hkept
    rw [keptEntries_eq]
    exact isForest_prune hforest hreads

end

/-- A truncated session is preserved exactly when nothing needs a label or a branch
summary that is attached to a summarised message. -/
theorem truncated_session_preserved_iff {file : SessionFile Message Body}
    {result : Truncation Message Body} (hforest : links.IsForest file.entries)
    (htruncate : truncateSessionAfterCompaction manager params file = .ok result) :
    Preserves manager file.entries result.file.entries ↔ NothingLost manager file.entries := by
  obtain ⟨hentries, hlatest⟩ := truncate_ok htruncate
  rw [hentries]
  constructor
  · exact nothingLost_of_preserves hforest
  · exact preserves_of_nothingLost hforest hlatest

end Preserved

def branchWalker : SessionManager Message Body where
  getBranch entries :=
    ancestry links entries (entries.length + 1) (entries.getLast?.map SessionEntry.id)
  getBranch_lineage entries hforest := by
    cases hlast : entries.getLast? with
    | none => exact .root
    | some leaf =>
      exact ancestry_spec hforest (List.mem_map_of_mem (List.mem_of_getLast? hlast))

def anyHeartbeat : TruncationParams Unit where
  isHeartbeatUserMessage _ := true
  isHeartbeatOkResponse _ := true

def compactedSession : SessionFile Unit Unit where
  header := some (js "session")
  entries :=
    [ ⟨js "first", none, .message ()⟩, ⟨js "second", some (js "first"), .message ()⟩,
      ⟨js "compaction", some (js "second"), .compaction (some (js "second")) ()⟩ ]

theorem compactedSession_isForest : links.IsForest compactedSession.entries :=
  .of_positions (by decide) (by decide)

def shortenedSession : SessionFile Unit Unit where
  header := some (js "session")
  entries :=
    [ ⟨js "second", none, .message ()⟩, ⟨js "compaction", some (js "second"),
        .compaction (some (js "second")) ()⟩ ]

theorem compactedSession_preserved :
    truncateSessionAfterCompaction branchWalker anyHeartbeat compactedSession =
        .ok ⟨1, shortenedSession⟩ ∧
      Preserves branchWalker compactedSession.entries
        shortenedSession.entries := by
  have hrun : truncateSessionAfterCompaction branchWalker anyHeartbeat
      compactedSession = .ok ⟨1, shortenedSession⟩ := by decide
  refine ⟨hrun, ?_⟩
  apply (truncated_session_preserved_iff compactedSession_isForest hrun).mpr
  have hplain : ∀ entry ∈ compactedSession.entries, entry.refersTo = none := by
    decide
  have hfree : ∀ entry ∈ compactedSession.entries,
      ¬ IsAttached branchWalker compactedSession.entries entry := by
    rintro entry hentry ⟨message, -, hrefers⟩
    rw [hplain entry hentry] at hrefers
    cases hrefers
  constructor
  case targets =>
    intro entry hentry targetId body hkind
    have hnone := hplain entry hentry
    simp [SessionEntry.refersTo, hkind] at hnone
  case chains =>
    intro entry hentry hattached
    exact absurd hattached (hfree entry hentry)
  case anchor =>
    intro id hanchor
    have hsecond : anchorOf branchWalker compactedSession.entries = some (js "second") := by decide
    rw [hsecond, Option.some.injEq] at hanchor
    refine ⟨⟨js "second", some (js "first"), .message ()⟩, ?_, hanchor, ?_⟩
    · simp [compactedSession]
    · exact hfree _ (by simp [compactedSession])
  case tail =>
    intro entry hentry
    exact hfree entry (branch_subset compactedSession_isForest (activeTail_suffix.subset hentry))

def labelledSession : SessionFile Unit Unit where
  header := some (js "session")
  entries :=
    [ ⟨js "first", none, .message ()⟩, ⟨js "bookmark", some (js "first"), .label (js "first") ()⟩,
      ⟨js "second", some (js "bookmark"), .message ()⟩,
      ⟨js "compaction", some (js "second"), .compaction (some (js "bookmark")) ()⟩ ]

theorem labelled_anchor_removed :
    ¬ ∀ (manager : SessionManager Unit Unit) (params : TruncationParams Unit)
      (file : SessionFile Unit Unit) (result : Truncation Unit Unit),
      links.IsForest file.entries →
      truncateSessionAfterCompaction manager params file = .ok result →
      Preserves manager file.entries result.file.entries := by
  intro hclaim
  have hforest : links.IsForest labelledSession.entries := .of_positions (by decide) (by decide)
  have hkept := hclaim branchWalker anyHeartbeat labelledSession
    ⟨2, { labelledSession with entries :=
      [ ⟨js "second", none, .message ()⟩, ⟨js "compaction", some (js "second"),
          .compaction (some (js "bookmark")) ()⟩ ] }⟩ hforest (by decide)
  have hanchor := hkept.anchor (js "bookmark") (by decide)
  revert hanchor
  decide

end LittleBaby.SessionTruncation
