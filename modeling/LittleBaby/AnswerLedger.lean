import Mathlib.Data.List.Count
import Mathlib.Data.List.Nodup
import Mathlib.Data.List.TakeWhile

/-!
# A ledger of turns and answers

A turn asks for answers by their ids. The ledger takes turns, answers and other
entries one by one.
-/

namespace AnswerLedger

variable {Id : Type*}

/-- A turn is `shown` when its answers are asked for by whoever reads the
ledger. -/
inductive Entry (Id : Type*) where
  | turn (ids : List Id) (shown : Bool)
  | other
  | answer (id : Option Id)
  deriving DecidableEq

/-- A turn is `tracked` when its answers are outstanding from then on; a turn may
also be dropped instead of filed. -/
inductive Event (Id : Type*) where
  | turn (ids : List Id) (tracked shown : Bool)
  | dropped
  | other
  | answer (id : Option Id)
  deriving DecidableEq

def Entry.isAnswer : Entry Id → Bool
  | .answer _ => true
  | _ => false

namespace Event

def isAnswer : Event Id → Bool
  | .answer _ => true
  | _ => false

def isSilent : Event Id → Bool
  | .answer _ | .dropped => true
  | _ => false

def ids : Event Id → List Id
  | .turn ids _ _ => ids
  | _ => []

end Event

def filed (ids : List Id) : List (Entry Id) := ids.map fun id => .answer (some id)

def outstanding (ids : List Id) (tracked : Bool) : List Id :=
  if tracked then ids else []

variable [DecidableEq Id]

/-- The entries from an event on, with the ids that are outstanding there. -/
def entries : List Id → List (Event Id) → List (Entry Id)
  | pending, [] => filed pending
  | pending, .answer id :: rest =>
    .answer id :: entries (pending.filter fun other => some other ≠ id) rest
  | pending, .dropped :: rest => filed pending ++ entries [] rest
  | pending, .other :: rest => filed pending ++ .other :: entries [] rest
  | pending, .turn ids tracked shown :: rest =>
    filed pending ++ .turn ids shown :: entries (outstanding ids tracked) rest

/-- Each answer that a shown turn asks for comes before the next entry that is no
answer, and it comes once. -/
def IsPaired (ledger : List (Entry Id)) : Prop :=
  ∀ before ids after, ledger = before ++ .turn ids true :: after → ∀ id ∈ ids,
    (after.takeWhile Entry.isAnswer).count (.answer (some id)) = 1 ∧
      ledger.count (.answer (some id)) = 1

/-- No id is asked for twice, and an answer comes at most once and behind its
turn. -/
structure IsSession (events : List (Event Id)) : Prop where
  distinct : (events.flatMap Event.ids).Nodup
  once : ∀ id ∈ events.flatMap Event.ids, events.count (.answer (some id)) ≤ 1
  behind : ∀ before event after, events = before ++ event :: after →
    ∀ id ∈ event.ids, Event.answer (some id) ∉ before

/-- The answers to a tracked turn follow it at once or stay out; those to a shown
turn that is not tracked come before the next entry that is no answer. -/
def IsPrompt (events : List (Event Id)) : Prop :=
  ∀ before ids tracked after, events = before ++ .turn ids tracked true :: after → ∀ id ∈ ids,
      if tracked then .answer (some id) ∉ after.dropWhile Event.isAnswer
      else .answer (some id) ∈ after.takeWhile Event.isSilent

theorem entries_append_turn (pending : List Id) (before : List (Event Id))
    (ids : List Id) (tracked shown : Bool) (after : List (Event Id)) :
    entries pending (before ++ .turn ids tracked shown :: after) = entries pending before ++
        .turn ids shown :: entries (outstanding ids tracked) after := by
  induction before generalizing pending with
  | nil => simp [entries]
  | cons event before ih =>
    cases event <;> simp [entries, ih]

omit [DecidableEq Id] in
theorem split_behind_filed {pending : List Id} {list before after : List (Entry Id)}
    {ids : List Id} {shown : Bool}
    (hsplit : filed pending ++ list = before ++ .turn ids shown :: after) :
    ∃ early, before = filed pending ++ early ∧ list = early ++ .turn ids shown :: after := by
  rcases List.append_eq_append_iff.mp hsplit with
    ⟨early, hbefore, hlist⟩ | ⟨rest, hfiled, hlist⟩
  · exact ⟨early, hbefore, hlist⟩
  · cases rest with
    | nil =>
      rw [List.append_nil] at hfiled
      exact ⟨[], by simp [hfiled], by simpa using hlist.symm⟩
    | cons entry rest =>
      obtain ⟨rfl, -⟩ := List.cons.inj hlist
      have hmem : Entry.turn ids shown ∈ filed pending := by
        rw [hfiled]
        simp
      simp [filed] at hmem

theorem exists_event_of_entries {pending : List Id} {events : List (Event Id)}
    {before after : List (Entry Id)} {ids : List Id} {shown : Bool}
    (hsplit : entries pending events = before ++ .turn ids shown :: after) :
    ∃ early tracked late, events = early ++ .turn ids tracked shown :: late ∧
      before = entries pending early ∧
      after = entries (outstanding ids tracked) late := by
  induction events generalizing pending before with
  | nil =>
    have hmem : Entry.turn ids shown ∈ filed pending := by
      rw [entries] at hsplit
      rw [hsplit]
      simp
    simp [filed] at hmem
  | cons event events ih =>
    cases event with
    | answer id =>
      rw [entries] at hsplit
      cases before with
      | nil => simp at hsplit
      | cons first before =>
        obtain ⟨rfl, hrest⟩ := List.cons.inj hsplit
        obtain ⟨early, tracked, late, rfl, rfl, hafter⟩ := ih hrest
        exact ⟨.answer id :: early, tracked, late, rfl, rfl, hafter⟩
    | dropped =>
      rw [entries] at hsplit
      obtain ⟨between, rfl, hrest⟩ := split_behind_filed hsplit
      obtain ⟨early, tracked, late, rfl, rfl, hafter⟩ := ih hrest
      exact ⟨.dropped :: early, tracked, late, rfl, rfl, hafter⟩
    | other =>
      rw [entries] at hsplit
      obtain ⟨between, rfl, hlist⟩ := split_behind_filed hsplit
      cases between with
      | nil => simp at hlist
      | cons first between =>
        obtain ⟨rfl, hrest⟩ := List.cons.inj hlist
        obtain ⟨early, tracked, late, rfl, rfl, hafter⟩ := ih hrest
        exact ⟨.other :: early, tracked, late, rfl, rfl, hafter⟩
    | turn others tracked visible =>
      rw [entries] at hsplit
      obtain ⟨between, rfl, hlist⟩ := split_behind_filed hsplit
      cases between with
      | nil =>
        obtain ⟨hturn, rfl⟩ := List.cons.inj hlist
        cases hturn
        exact ⟨[], tracked, events, rfl, by simp [entries], rfl⟩
      | cons first between =>
        obtain ⟨rfl, hrest⟩ := List.cons.inj hlist
        obtain ⟨early, before, late, rfl, rfl, hafter⟩ := ih hrest
        exact ⟨.turn others tracked visible :: early, before, late, rfl, rfl, hafter⟩

section Counting

variable {id : Id} {pending : List Id} {events : List (Event Id)}

theorem count_filed (hcount : pending.count id ≤ 1) :
    (filed pending).count (.answer (some id)) = if id ∈ pending then 1 else 0 := by
  have hinjective : Function.Injective fun id : Id => Entry.answer (some id) := by
    intro left right hsame
    simpa using hsame
  unfold filed
  rw [List.count_map_of_injective _ _ hinjective]
  split_ifs with hmem
  · have hpos := List.count_pos_iff.mpr hmem
    omega
  · exact List.count_eq_zero_of_not_mem hmem

def filedInAdvance (pending : List Id) (events : List (Event Id)) (id : Id) : ℕ :=
  if id ∈ pending ∧ .answer (some id) ∉ events.takeWhile Event.isAnswer then 1
  else 0

theorem filedInAdvance_of_not_answer (event : Event Id) (hevent : event.isAnswer = false) :
    filedInAdvance pending (event :: events) id = if id ∈ pending then 1 else 0 := by
  simp [filedInAdvance, hevent]

theorem filedInAdvance_answer (answer : Option Id) :
    filedInAdvance pending (.answer answer :: events) id =
      filedInAdvance (pending.filter fun other => some other ≠ answer) events id := by
  have hiff : (id ∈ pending ∧ Event.answer (some id) ∉
        (Event.answer answer :: events).takeWhile Event.isAnswer) ↔
      (id ∈ pending.filter (fun other => some other ≠ answer) ∧
        Event.answer (some id) ∉ events.takeWhile Event.isAnswer) := by
    rw [List.takeWhile_cons_of_pos rfl, List.mem_cons, List.mem_filter, not_or,
      Event.answer.injEq, decide_eq_true_eq, and_assoc]
  unfold filedInAdvance
  rw [if_congr hiff rfl rfl]

theorem filedInAdvance_nil : filedInAdvance [] events id = 0 := by
  simp [filedInAdvance]

theorem count_entries (hcount : pending.count id ≤ 1) (hlater : id ∉ events.flatMap Event.ids) :
    (entries pending events).count (.answer (some id)) =
      events.count (.answer (some id)) + filedInAdvance pending events id := by
  induction events generalizing pending with
  | nil =>
    rw [entries, count_filed hcount]
    simp [filedInAdvance]
  | cons event events ih =>
    rw [List.flatMap_cons, List.mem_append, not_or] at hlater
    cases event with
    | answer answer =>
      have hsublist : (pending.filter fun other =>
          some other ≠ answer).Sublist pending := List.filter_sublist
      have hrest := ih (le_trans (hsublist.count_le id) hcount) hlater.2
      rw [entries, filedInAdvance_answer, List.count_cons, List.count_cons, hrest]
      simp only [beq_iff_eq, Entry.answer.injEq, Event.answer.injEq]
      omega
    | dropped | other =>
      have hrest := @ih [] (Nat.zero_le 1) hlater.2
      rw [filedInAdvance_of_not_answer _ rfl]
      simp [entries, count_filed hcount, hrest, filedInAdvance_nil, Nat.add_comm]
    | turn ids tracked shown =>
      have hnot : id ∉ outstanding ids tracked := by
        unfold outstanding
        split_ifs
        · exact hlater.1
        · simp
      have hnone : (outstanding ids tracked).count id = 0 := List.count_eq_zero_of_not_mem hnot
      have hrest := @ih (outstanding ids tracked) (by omega) hlater.2
      have hzero : filedInAdvance (outstanding ids tracked) events id = 0 := by
        simp [filedInAdvance, hnot]
      rw [entries, List.count_append, count_filed hcount,
        List.count_cons_of_ne (by simp), hrest, hzero,
        filedInAdvance_of_not_answer (.turn ids tracked shown) rfl,
        List.count_cons_of_ne (by simp)]
      omega

omit [DecidableEq Id] in
theorem takeWhile_filed (pending : List Id) (list : List (Entry Id)) :
    (filed pending ++ list).takeWhile Entry.isAnswer =
      filed pending ++ list.takeWhile Entry.isAnswer := by
  apply List.takeWhile_append_of_pos
  intro entry hentry
  obtain ⟨other, -, rfl⟩ := List.mem_map.mp hentry
  rfl

theorem count_takeWhile_entries (hcount : pending.count id ≤ 1) :
    ((entries pending events).takeWhile Entry.isAnswer).count (.answer (some id)) =
      (events.takeWhile Event.isSilent).count (.answer (some id)) +
        filedInAdvance pending events id := by
  induction events generalizing pending with
  | nil =>
    have hall := takeWhile_filed pending []
    rw [List.append_nil] at hall
    rw [entries, hall]
    simp [count_filed hcount, filedInAdvance]
  | cons event events ih =>
    cases event with
    | answer answer =>
      have hsublist : (pending.filter fun other =>
          some other ≠ answer).Sublist pending := List.filter_sublist
      have hrest := ih (le_trans (hsublist.count_le id) hcount)
      rw [entries, filedInAdvance_answer, List.takeWhile_cons_of_pos rfl,
        List.takeWhile_cons_of_pos rfl, List.count_cons, List.count_cons,
        hrest]
      simp only [beq_iff_eq, Entry.answer.injEq, Event.answer.injEq]
      omega
    | dropped =>
      have hrest := @ih [] (Nat.zero_le 1)
      rw [entries, takeWhile_filed, List.count_append, count_filed hcount,
        hrest, filedInAdvance_nil, filedInAdvance_of_not_answer .dropped rfl,
        List.takeWhile_cons_of_pos rfl, List.count_cons_of_ne (by simp)]
      omega
    | other | turn =>
      rw [entries, takeWhile_filed, List.count_append, count_filed hcount,
        filedInAdvance_of_not_answer _ rfl,
        List.takeWhile_cons_of_neg (by simp [Entry.isAnswer]),
        List.takeWhile_cons_of_neg (by simp [Event.isSilent])]
      simp

end Counting

omit [DecidableEq Id] in
theorem takeWhile_isAnswer_sublist (events : List (Event Id)) :
    (events.takeWhile Event.isAnswer).Sublist (events.takeWhile Event.isSilent) := by
  induction events with
  | nil => exact List.Sublist.refl _
  | cons event events ih =>
    cases event with
    | answer id =>
      rw [List.takeWhile_cons_of_pos rfl, List.takeWhile_cons_of_pos rfl]
      exact ih.cons_cons _
    | _ =>
      rw [List.takeWhile_cons_of_neg (by simp [Event.isAnswer])]
      exact List.nil_sublist _

variable {events : List (Event Id)}

theorem paired_at_iff (hsession : IsSession events) {early late : List (Event Id)}
    {ids : List Id} {tracked shown : Bool} {id : Id}
    (hsplit : events = early ++ .turn ids tracked shown :: late)
    (hid : id ∈ ids) :
    (((entries (outstanding ids tracked) late).takeWhile Entry.isAnswer).count
          (.answer (some id)) = 1 ∧
        (entries [] events).count (.answer (some id)) = 1) ↔
      if tracked then .answer (some id) ∉ late.dropWhile Event.isAnswer
      else .answer (some id) ∈ late.takeWhile Event.isSilent := by
  subst hsplit
  have hdistinct := hsession.distinct
  simp only [List.flatMap_append, List.flatMap_cons, Event.ids, List.nodup_append] at hdistinct
  obtain ⟨-, ⟨hids, -, hlate⟩, hearly⟩ := hdistinct
  have hnotLate : id ∉ late.flatMap Event.ids := fun hmem =>
    hlate id hid id hmem rfl
  have hnotEarly : id ∉ early.flatMap Event.ids := fun hmem =>
    hearly id hmem id (List.mem_append_left _ hid) rfl
  have hbehind := hsession.behind early _ late rfl id hid
  have honce := hsession.once id (by simp [Event.ids, hid])
  have hcount : (outstanding ids tracked).count id ≤ 1 := by
    unfold outstanding
    split_ifs
    · exact List.nodup_iff_count_le_one.mp hids id
    · simp
  have hbefore : (entries [] early).count (.answer (some id)) = 0 := by
    rw [@count_entries _ _ id [] early (Nat.zero_le 1) hnotEarly, filedInAdvance_nil,
      List.count_eq_zero_of_not_mem hbehind]
  rw [List.count_append, List.count_eq_zero_of_not_mem hbehind,
    List.count_cons_of_ne (by simp), Nat.zero_add] at honce
  rw [entries_append_turn, List.count_append, hbefore,
    List.count_cons_of_ne (by simp), count_entries hcount hnotLate,
    count_takeWhile_entries hcount]
  have hparts : (late.takeWhile Event.isAnswer).count (.answer (some id)) +
      (late.dropWhile Event.isAnswer).count (.answer (some id)) =
        late.count (.answer (some id)) := by
    rw [← List.count_append, List.takeWhile_append_dropWhile]
  have hsilent : (late.takeWhile Event.isSilent).count (.answer (some id)) ≤
      late.count (.answer (some id)) :=
    (List.takeWhile_sublist _).count_le _
  have hfirst : (late.takeWhile Event.isAnswer).count (.answer (some id)) ≤
      (late.takeWhile Event.isSilent).count (.answer (some id)) :=
    (takeWhile_isAnswer_sublist late).count_le _
  cases tracked with
  | false =>
    have hzero : filedInAdvance (outstanding ids false) late id = 0 := filedInAdvance_nil
    rw [hzero]
    simp
    rw [← List.count_pos_iff]
    omega
  | true =>
    simp
    rw [← List.count_eq_zero]
    by_cases hprompt : Event.answer (some id) ∈ late.takeWhile Event.isAnswer
    · have hzero : filedInAdvance (outstanding ids true) late id = 0 := by
        simp [filedInAdvance, hprompt]
      have hpos := List.count_pos_iff.mpr hprompt
      omega
    · have hone : filedInAdvance (outstanding ids true) late id = 1 := by
        rw [filedInAdvance, if_pos ⟨hid, hprompt⟩]
      have hnone := List.count_eq_zero.mpr hprompt
      omega

theorem isPaired_iff (hsession : IsSession events) :
    IsPaired (entries [] events) ↔ IsPrompt events := by
  constructor
  · intro hpaired early ids tracked late hsplit id hid
    apply (paired_at_iff hsession hsplit hid).mp
    have hledger : entries [] events = entries [] early ++
        .turn ids true :: entries (outstanding ids tracked) late := by
      rw [hsplit, entries_append_turn]
    exact hpaired _ ids _ hledger id hid
  · intro hprompt before ids after hledger id hid
    obtain ⟨early, tracked, late, hsplit, -, rfl⟩ := exists_event_of_entries hledger
    exact (paired_at_iff hsession hsplit hid).mpr (hprompt early ids tracked late hsplit id hid)

end AnswerLedger
