import LittleBaby.Arena
import LittleBaby.Entries

/-!
# Chains of tasks by key

A task starts once the task that was last in the chain of its key has settled.
The table of the last tasks forgets a key when its last task has settled.
-/

namespace KeyedChains

inductive Phase
  | waiting
  | running
  | settled
  /-- settled, and the table of the last tasks has been cleaned up -/
  | cleaned
  deriving DecidableEq

def Phase.isSettled : Phase → Bool
  | .settled => true
  | .cleaned => true
  | .waiting => false
  | .running => false

structure Link (Key Task : Type*) where
  key : Key
  /-- the last link of the chain when this one was appended -/
  previous : Option ℕ
  task : Task
  phase : Phase

end KeyedChains

open KeyedChains

structure KeyedChains (Key Task : Type*) where
  links : Arena (Link Key Task)
  /-- the last link of each chain that is not forgotten -/
  tails : List (Key × ℕ)

namespace KeyedChains

variable {Key Task : Type*}

def empty : KeyedChains Key Task := ⟨Arena.empty, []⟩

section Operations

variable [BEq Key] (chains : KeyedChains Key Task)

def append (key : Key) (task : Task) : KeyedChains Key Task where
  links := chains.links.push ⟨key, chains.tails.lookup key, task, .waiting⟩
  tails := Entries.set key chains.links.size chains.tails

def isSettled (index : ℕ) : Bool :=
  match chains.links.get? index with
  | none => false
  | some link => link.phase.isSettled

def isFree (link : Link Key Task) : Bool :=
  match link.previous with
  | none => true
  | some previous => chains.isSettled previous

def put (index : ℕ) (link : Link Key Task) : KeyedChains Key Task :=
  { chains with links := chains.links.put index link }

def cleanUp (index : ℕ) (link : Link Key Task) : KeyedChains Key Task where
  links := chains.links.put index { link with phase := .cleaned }
  tails :=
    if chains.tails.lookup link.key = some index then
      Entries.erase link.key chains.tails
    else chains.tails

end Operations

structure Serial [BEq Key] (chains : KeyedChains Key Task) : Prop where
  alone : ∀ index link, chains.links.get? index = some link →
    link.previous = none → ∀ earlier other, earlier < index →
      chains.links.get? earlier = some other → other.key = link.key → other.phase.isSettled = true
  behind : ∀ index link previous, chains.links.get? index = some link →
    link.previous = some previous → (∃ other, chains.links.get? previous = some other ∧
        other.key = link.key) ∧ previous < index ∧
      ∀ earlier other, earlier < index →
        chains.links.get? earlier = some other → other.key = link.key → earlier ≤ previous
  started : ∀ index link, chains.links.get? index = some link →
    link.phase ≠ .waiting → ∀ earlier other, earlier < index →
      chains.links.get? earlier = some other → other.key = link.key → other.phase.isSettled = true
  last : ∀ key index, chains.tails.lookup key = some index →
    (∃ link, chains.links.get? index = some link ∧ link.key = key) ∧
      ∀ later link, chains.links.get? later = some link → link.key = key → later ≤ index
  forgotten : ∀ key, chains.tails.lookup key = none →
    ∀ index link, chains.links.get? index = some link → link.key = key → link.phase.isSettled = true

variable [BEq Key] [LawfulBEq Key] {chains : KeyedChains Key Task}
  {index : ℕ} {link : Link Key Task}

omit [LawfulBEq Key] in
theorem serial_empty : Serial (empty : KeyedChains Key Task) := by
  constructor <;> simp [empty]

omit [LawfulBEq Key] in
theorem Serial.settled_before (hserial : Serial chains) (hget : chains.links.get? index = some link)
    (hready : link.phase ≠ .waiting ∨ chains.isFree link = true)
    {earlier : ℕ} {other : Link Key Task} (hlt : earlier < index)
    (hother : chains.links.get? earlier = some other)
    (hkey : other.key = link.key) : other.phase.isSettled = true := by
  rcases hready with hstarted | hfree
  · exact hserial.started index link hget hstarted earlier other hlt hother hkey
  · unfold isFree at hfree
    cases hprevious : link.previous with
    | none =>
      exact hserial.alone index link hget hprevious earlier other hlt hother hkey
    | some previous =>
      obtain ⟨⟨found, hfound, hsame⟩, -, hle⟩ := hserial.behind index link previous hget hprevious
      have hsettled : found.phase.isSettled = true := by
        simpa [hprevious, isSettled, hfound] using hfree
      rcases Nat.lt_or_eq_of_le (hle earlier other hlt hother hkey) with
        hbefore | rfl
      · have hstarted : found.phase ≠ .waiting := by
          intro hwaiting
          simp [hwaiting, Phase.isSettled] at hsettled
        exact hserial.started previous found hfound hstarted earlier other
          hbefore hother (hkey.trans hsame.symm)
      · cases hother.symm.trans hfound
        exact hsettled

theorem Serial.append (hserial : Serial chains) (key : Key) (task : Task) :
    Serial (chains.append key task) := by
  have hpush := fun found other => @Arena.get?_push_eq_some _ chains.links
    (⟨key, chains.tails.lookup key, task, .waiting⟩ : Link Key Task) found other
  have hlt : ∀ earlier other, chains.links.get? earlier = some other →
      earlier < chains.links.size := fun _ _ => Arena.lt_size_of_get?
  have hold : ∀ earlier other bound, earlier < bound → bound ≤ chains.links.size →
      (chains.links.push ⟨key, chains.tails.lookup key, task, .waiting⟩).get?
        earlier = some other → chains.links.get? earlier = some other := by
    intro earlier other bound hbefore hbound hget
    rcases Arena.get?_push_eq_some.mp hget with ⟨rfl, -⟩ | hget
    · omega
    · exact hget
  constructor
  · intro index link hget hnone earlier other hbefore hother hkey
    rcases Arena.get?_push_eq_some.mp hget with ⟨rfl, rfl⟩ | hget
    · exact hserial.forgotten key hnone earlier other
        (hold earlier other _ hbefore (Nat.le_refl _) hother) hkey
    · exact hserial.alone index link hget hnone earlier other hbefore
        (hold earlier other index hbefore (Nat.le_of_lt (hlt _ _ hget)) hother) hkey
  · intro index link previous hget hsome
    rcases Arena.get?_push_eq_some.mp hget with ⟨rfl, rfl⟩ | hget
    · obtain ⟨⟨found, hfound, hsame⟩, hle⟩ := hserial.last key previous hsome
      refine ⟨⟨found, Arena.get?_push_of_get? _ hfound, hsame⟩, hlt _ _ hfound, ?_⟩
      intro earlier other hbefore hother hkey
      exact hle earlier other (hold earlier other _ hbefore (Nat.le_refl _) hother) hkey
    · obtain ⟨⟨found, hfound, hsame⟩, hbefore, hle⟩ := hserial.behind index link previous hget hsome
      refine ⟨⟨found, Arena.get?_push_of_get? _ hfound, hsame⟩, hbefore, ?_⟩
      intro earlier other hearlier hother hkey
      exact hle earlier other hearlier
        (hold earlier other index hearlier (Nat.le_of_lt (hlt _ _ hget)) hother) hkey
  · intro index link hget hstarted earlier other hbefore hother hkey
    rcases Arena.get?_push_eq_some.mp hget with ⟨rfl, rfl⟩ | hget
    · exact absurd rfl hstarted
    · exact hserial.started index link hget hstarted earlier other hbefore
        (hold earlier other index hbefore (Nat.le_of_lt (hlt _ _ hget)) hother) hkey
  · intro searched index hlookup
    change (Entries.set key chains.links.size chains.tails).lookup searched = some index at hlookup
    by_cases hsame : searched = key
    · subst hsame
      rw [Entries.lookup_set_self] at hlookup
      cases hlookup
      refine ⟨⟨_, Arena.get?_push_size _, rfl⟩, ?_⟩
      intro later link hget _
      rcases Arena.get?_push_eq_some.mp hget with ⟨rfl, -⟩ | hget
      · exact Nat.le_refl _
      · exact Nat.le_of_lt (hlt _ _ hget)
    · rw [Entries.lookup_set_of_ne hsame] at hlookup
      obtain ⟨⟨found, hfound, hkey⟩, hle⟩ := hserial.last searched index hlookup
      refine ⟨⟨found, Arena.get?_push_of_get? _ hfound, hkey⟩, ?_⟩
      intro later link hget hother
      rcases Arena.get?_push_eq_some.mp hget with ⟨rfl, rfl⟩ | hget
      · exact absurd hother.symm hsame
      · exact hle later link hget hother
  · intro searched hlookup index link hget hkey
    change (Entries.set key chains.links.size chains.tails).lookup searched = none at hlookup
    by_cases hsame : searched = key
    · subst hsame
      rw [Entries.lookup_set_self] at hlookup
      contradiction
    · rw [Entries.lookup_set_of_ne hsame] at hlookup
      rcases Arena.get?_push_eq_some.mp hget with ⟨rfl, rfl⟩ | hget
      · exact absurd hkey.symm hsame
      · exact hserial.forgotten searched hlookup index link hget hkey

structure Advances (chains : KeyedChains Key Task) (link changed : Link Key Task) :
    Prop where
  key : changed.key = link.key
  previous : changed.previous = link.previous
  settled : link.phase.isSettled = true → changed.phase.isSettled = true
  started : changed.phase ≠ .waiting → link.phase ≠ .waiting ∨ chains.isFree link = true

omit [LawfulBEq Key] in
theorem Serial.putTails (hserial : Serial chains)
    (hget : chains.links.get? index = some link) {changed : Link Key Task}
    (hadvances : Advances chains link changed) (tails : List (Key × ℕ))
    (hlast : ∀ key last, tails.lookup key = some last → chains.tails.lookup key = some last)
    (hforgotten : ∀ key, tails.lookup key = none → chains.tails.lookup key = none ∨
        (key = link.key ∧ chains.tails.lookup key = some index ∧ changed.phase.isSettled = true)) :
    Serial ⟨chains.links.put index changed, tails⟩ := by
  obtain ⟨hkey, hprevious, hsettled, hstarted⟩ := hadvances
  -- every link of the changed chains is a link of the old ones that moved on
  have hfind : ∀ found other, (chains.links.put index changed).get? found = some other →
        ∃ old, chains.links.get? found = some old ∧ other.key = old.key ∧
          other.previous = old.previous ∧
          (old.phase.isSettled = true → other.phase.isSettled = true) ∧
          (other.phase ≠ .waiting → old.phase ≠ .waiting ∨ chains.isFree old = true) := by
    intro found other hother
    rw [Arena.get?_put hget] at hother
    split_ifs at hother with hindex
    · subst hindex
      cases hother
      exact ⟨link, hget, hkey, hprevious, hsettled, hstarted⟩
    · exact ⟨other, hother, rfl, rfl, id, Or.inl⟩
  have hkept : ∀ found old, chains.links.get? found = some old →
      ∃ other, (chains.links.put index changed).get? found = some other ∧ other.key = old.key := by
    intro found old hold
    rw [Arena.get?_put hget]
    split_ifs with hindex
    · subst hindex
      cases hget.symm.trans hold
      exact ⟨changed, rfl, hkey⟩
    · exact ⟨old, hold, rfl⟩
  constructor
  · intro found other hother hnone earlier second hlt hsecond hsame
    obtain ⟨old, hold, holdkey, holdprevious, -, -⟩ := hfind found other hother
    obtain ⟨oldSecond, holdSecond, hsecondkey, -, hmono, -⟩ := hfind earlier second hsecond
    exact hmono (hserial.alone found old hold (holdprevious ▸ hnone) earlier
      oldSecond hlt holdSecond (hsecondkey ▸ holdkey ▸ hsame))
  · intro found other previous hother hsome
    obtain ⟨old, hold, holdkey, holdprevious, -, -⟩ := hfind found other hother
    obtain ⟨⟨third, hthird, hthirdkey⟩, hlt, hle⟩ :=
      hserial.behind found old previous hold (holdprevious ▸ hsome)
    obtain ⟨kept, hkeptget, hkeptkey⟩ := hkept previous third hthird
    refine ⟨⟨kept, hkeptget, ?_⟩, hlt, ?_⟩
    · rw [hkeptkey, hthirdkey, holdkey]
    · intro earlier second hearlier hsecond hsame
      obtain ⟨oldSecond, holdSecond, hsecondkey, -, -, -⟩ := hfind earlier second hsecond
      exact hle earlier oldSecond hearlier holdSecond (hsecondkey ▸ holdkey ▸ hsame)
  · intro found other hother hnot earlier second hlt hsecond hsame
    obtain ⟨old, hold, holdkey, -, -, hready⟩ := hfind found other hother
    obtain ⟨oldSecond, holdSecond, hsecondkey, -, hmono, -⟩ := hfind earlier second hsecond
    exact hmono (hserial.settled_before hold (hready hnot) hlt holdSecond
      (hsecondkey ▸ holdkey ▸ hsame))
  · intro key last hlookup
    obtain ⟨⟨old, hold, holdkey⟩, hle⟩ := hserial.last key last (hlast key last hlookup)
    obtain ⟨kept, hkeptget, hkeptkey⟩ := hkept last old hold
    refine ⟨⟨kept, hkeptget, hkeptkey.trans holdkey⟩, ?_⟩
    intro later other hother hsame
    obtain ⟨oldOther, holdOther, hotherkey, -, -, -⟩ := hfind later other hother
    exact hle later oldOther holdOther (hotherkey ▸ hsame)
  · intro key hnone found other hother hsame
    obtain ⟨old, hold, holdkey, -, hmono, -⟩ := hfind found other hother
    rcases hforgotten key hnone with hbefore | ⟨hlink, hlookup, hdone⟩
    · exact hmono (hserial.forgotten key hbefore found old hold (holdkey ▸ hsame))
    · -- the key is forgotten now: its last link has settled
      have hle := (hserial.last key index hlookup).2 found old hold (holdkey ▸ hsame)
      rcases Nat.lt_or_eq_of_le hle with hbefore | rfl
      · have hnot : changed.phase ≠ .waiting := by
          intro hwaiting
          simp [hwaiting, Phase.isSettled] at hdone
        exact hmono (hserial.settled_before hget (hstarted hnot) hbefore hold
          (holdkey ▸ hsame.trans hlink))
      · rw [Arena.get?_put hget, if_pos rfl, Option.some.injEq] at hother
        exact hother ▸ hdone

omit [LawfulBEq Key] in
theorem Serial.put (hserial : Serial chains)
    (hget : chains.links.get? index = some link) {changed : Link Key Task}
    (hadvances : Advances chains link changed) :
    Serial (chains.put index changed) :=
  hserial.putTails hget hadvances chains.tails (fun _ _ => id) fun _ => Or.inl

theorem Serial.cleanUp (hserial : Serial chains) (hget : chains.links.get? index = some link)
    (hsettled : link.phase.isSettled = true) :
    Serial (chains.cleanUp index link) := by
  have hstarted : link.phase ≠ .waiting := by
    intro hwaiting
    simp [hwaiting, Phase.isSettled] at hsettled
  have hadvances : Advances chains link { link with phase := .cleaned } :=
    ⟨rfl, rfl, fun _ => rfl, fun _ => Or.inl hstarted⟩
  apply hserial.putTails hget hadvances
  · intro key last hlookup
    split_ifs at hlookup with hlast
    · have hne : key ≠ link.key := by
        rintro rfl
        simp at hlookup
      rwa [Entries.lookup_erase_of_ne hne] at hlookup
    · exact hlookup
  · intro key hnone
    split_ifs at hnone with hlast
    · by_cases hkey : key = link.key
      · exact Or.inr ⟨hkey, hkey ▸ hlast, rfl⟩
      · rw [Entries.lookup_erase_of_ne hkey] at hnone
        exact Or.inl hnone
    · exact Or.inl hnone

omit [LawfulBEq Key] in
theorem Serial.running_unique (hserial : Serial chains) {other : ℕ}
    {second : Link Key Task} (hget : chains.links.get? index = some link)
    (hsecond : chains.links.get? other = some second)
    (hkey : link.key = second.key) (hrunning : link.phase = .running)
    (hother : second.phase = .running) : index = other := by
  rcases Nat.lt_trichotomy index other with hlt | heq | hlt
  · have hsettled := hserial.started other second hsecond (by simp [hother])
      index link hlt hget hkey
    simp [hrunning, Phase.isSettled] at hsettled
  · exact heq
  · have hsettled := hserial.started index link hget (by simp [hrunning])
      other second hlt hsecond hkey.symm
    simp [hother, Phase.isSettled] at hsettled

section Holdings

variable {Value : Type*} (holding : Link Key Task → List Value)

def held (key : Key) (chains : KeyedChains Key Task) : List Value :=
  chains.links.cells.flatMap fun link =>
    if link.key == key then holding link else []

omit [LawfulBEq Key] in
omit [LawfulBEq Key] in
theorem held_append (searched key : Key) (task : Task) (chains : KeyedChains Key Task) :
    held holding searched (chains.append key task) =
      held holding searched chains ++ if key == searched then
          holding ⟨key, chains.tails.lookup key, task, .waiting⟩
        else [] := by
  simp [held, append, Arena.push]

theorem exists_split {α : Type*} {list : List α} {index : ℕ} {old : α}
    (hget : list[index]? = some old) :
    ∃ before after, list = before ++ old :: after ∧ before.length = index := by
  obtain ⟨hlt, rfl⟩ := List.getElem?_eq_some_iff.mp hget
  refine ⟨list.take index, list.drop (index + 1), ?_, ?_⟩
  · rw [← List.drop_eq_getElem_cons hlt, List.take_append_drop]
  · simp [Nat.le_of_lt hlt]

variable {holding}

omit [LawfulBEq Key] in
theorem held_split (hget : chains.links.get? index = some link) (key : Key) :
    ∃ front rest, held holding key chains =
        front ++ (if link.key == key then holding link else []) ++ rest ∧
      (∀ changed tails, held holding key ⟨chains.links.put index changed, tails⟩ =
          front ++ (if changed.key == key then holding changed else []) ++ rest) ∧
      ((∀ earlier other, earlier < index →
        chains.links.get? earlier = some other → (other.key == key) = true →
          holding other = []) → front = []) ∧
      ((∀ later other, index < later →
        chains.links.get? later = some other → (other.key == key) = true →
          holding other = []) → rest = []) := by
  obtain ⟨before, after, hcells, hlength⟩ := exists_split hget
  refine ⟨before.flatMap fun other =>
      if other.key == key then holding other else [],
    after.flatMap fun other =>
      if other.key == key then holding other else [], ?_, ?_, ?_, ?_⟩
  · unfold held
    rw [hcells, List.flatMap_append, List.flatMap_cons, List.append_assoc]
  · intro changed tails
    unfold held Arena.put
    rw [hcells, ← hlength, List.set_append_right _ _ (Nat.le_refl _),
      Nat.sub_self, List.set_cons_zero, List.flatMap_append, List.flatMap_cons,
      List.append_assoc]
  · intro hnothing
    rw [List.flatMap_eq_nil_iff]
    intro other hmem
    obtain ⟨earlier, hearlier⟩ := List.mem_iff_getElem?.mp hmem
    have hlt := (List.getElem?_eq_some_iff.mp hearlier).1
    split_ifs with hsame
    · apply hnothing earlier other (hlength ▸ hlt) _ hsame
      unfold Arena.get?
      rw [hcells, List.getElem?_append_left hlt, hearlier]
    · rfl
  · intro hnothing
    rw [List.flatMap_eq_nil_iff]
    intro other hmem
    obtain ⟨place, hplace⟩ := List.mem_iff_getElem?.mp hmem
    split_ifs with hsame
    · apply hnothing (index + 1 + place) other (by omega) _ hsame
      unfold Arena.get?
      rw [hcells, List.getElem?_append_right (by omega),
        show index + 1 + place - before.length = place + 1 by omega,
        List.getElem?_cons_succ, hplace]
    · rfl

omit [LawfulBEq Key] in
theorem held_put_first (hget : chains.links.get? index = some link)
    {changed : Link Key Task} (hkey : changed.key = link.key)
    (hself : (link.key == link.key) = true)
    (hbefore : ∀ earlier other, earlier < index →
      chains.links.get? earlier = some other → (other.key == link.key) = true →
        holding other = []) (tails : List (Key × ℕ)) :
    ∃ rest, held holding link.key chains = holding link ++ rest ∧
      held holding link.key ⟨chains.links.put index changed, tails⟩ = holding changed ++ rest := by
  obtain ⟨front, rest, hold, hnew, hfront, -⟩ := held_split hget link.key
  rw [hfront hbefore, if_pos hself, List.nil_append] at hold
  refine ⟨rest, hold, ?_⟩
  rw [hnew, hfront hbefore, hkey, if_pos hself, List.nil_append]

omit [LawfulBEq Key] in
theorem held_put_last (hget : chains.links.get? index = some link)
    {changed : Link Key Task} (hkey : changed.key = link.key)
    (hself : (link.key == link.key) = true)
    (hlast : ∀ later other, chains.links.get? later = some other →
      (other.key == link.key) = true → later ≤ index)
    (tails : List (Key × ℕ)) :
    ∃ front, held holding link.key chains = front ++ holding link ∧
      held holding link.key ⟨chains.links.put index changed, tails⟩ = front ++ holding changed := by
  obtain ⟨front, rest, hold, hnew, -, hrest⟩ :=
    @held_split _ _ _ chains index link _ holding hget link.key
  have hnone : rest = [] := by
    apply hrest
    intro later other hlt hother hsame
    have hle := hlast later other hother hsame
    omega
  rw [hnone, if_pos hself, List.append_nil] at hold
  refine ⟨front, hold, ?_⟩
  rw [hnew, hnone, hkey, if_pos hself, List.append_nil]

omit [LawfulBEq Key] in
theorem held_put_same (hget : chains.links.get? index = some link)
    {changed : Link Key Task} (hkey : changed.key = link.key) {key : Key}
    (hsame : (link.key == key) = true → holding changed = holding link)
    (tails : List (Key × ℕ)) :
    held holding key ⟨chains.links.put index changed, tails⟩ = held holding key chains := by
  obtain ⟨front, rest, hold, hnew, -, -⟩ := @held_split _ _ _ chains index link _ holding hget key
  have hone : (if changed.key == key then holding changed else []) =
      if link.key == key then holding link else [] := by
    rw [hkey]
    split_ifs with hcase
    · exact hsame hcase
    · rfl
  rw [hnew, hold, hone]

omit [LawfulBEq Key] in
theorem held_of_alone (hget : chains.links.get? index = some link)
    (hself : (link.key == link.key) = true)
    (halone : ∀ other second, chains.links.get? other = some second →
      (second.key == link.key) = true → other ≠ index → holding second = []) :
    held holding link.key chains = holding link := by
  obtain ⟨front, rest, hold, -, hfront, hrest⟩ :=
    @held_split _ _ _ chains index link _ holding hget link.key
  rw [hold, hfront fun earlier other hlt hother hsame =>
      halone earlier other hother hsame (Nat.ne_of_lt hlt),
    hrest fun later other hlt hother hsame =>
      halone later other hother hsame (Nat.ne_of_gt hlt),
    if_pos hself, List.nil_append, List.append_nil]

end Holdings

end KeyedChains
