import LittleBaby.RedactWalk

/-!
# When a walk gives back what it has hidden

A member that a walk hides comes back when the rules open it.  An object whose
`id` is hidden beside a `source` is taken for a secret reference: it comes back
as a whole, with its `id` alone replaced.
-/

namespace LittleBaby.Redact

open JsString JsValue Walk Entries Rules

variable {State : Type} (urls : UrlLibrary) (walk : Walk State)

def Rules.touchesMember (rules : Rules) (value : JsValue) (walked : Bool) : Bool :=
  rules.hides urls value || if rules.refs && isSecretRef value then
      isSecretString (readKey (js "id") (toObjectRecord value))
    else walked

mutual

def Walk.touches : State → JsValue → Bool
  | state, .array items => touchesItems state items
  | state, .object entries => touchesEntries state entries
  | _, _ => false

def Walk.touchesItems : State → List JsValue → Bool
  | _, [] => false
  | state, item :: rest =>
    (walk.itemTexts state && isSecretString item) ||
      touches (walk.nextItem state) item || touchesItems state rest

def Walk.touchesEntries : State → List (JsString × JsValue) → Bool
  | _, [] => false
  | state, (key, value) :: rest =>
    key = protoKey || (walk.rules state key).touchesMember urls value
        (touches (walk.next state key) value) ||
      touchesEntries state rest

end

def Walk.touchesAt (state : State) (key : JsString) (value : JsValue) : Bool :=
  (walk.rules state key).touchesMember urls value (walk.touches urls (walk.next state key) value)

def Walk.redactAt (state : State) (key : JsString) (value : JsValue) : JsValue :=
  (walk.rules state key).redactMember urls value (walk.redact urls (walk.next state key) value)

/-- A walk over the members of an object hides its `id` and leaves or writes a
string as its `source`. -/
def Walk.hidesId (state : State) (entries : List (JsString × JsValue)) : Bool :=
  (entries.lookup (js "source")).any (fun source => isString source ||
      (walk.rules state (js "source")).hides urls source) &&
    (entries.lookup (js "id")).any ((walk.rules state (js "id")).hides urls)

/-- A walk over the members of an object changes nothing but its `id`. -/
def Walk.touchesOnlyId (state : State) (entries : List (JsString × JsValue)) : Bool :=
  entries.all fun entry =>
    entry.1 = js "id" || entry.1 ≠ protoKey && !walk.touchesAt urls state entry.1 entry.2

def Walk.restorableAt (state : State) (key : JsString) (value : JsValue) (walked : Bool) : Bool :=
  let rules := walk.rules state key
  let next := walk.next state key
  if rules.hides urls value then rules.opens
  else if rules.refs && isSecretRef value then
    isSecretString (readKey (js "id") (toObjectRecord value)) || everywhere withoutProto value
  else if rules.opensRefs && walk.hidesId urls next (toObjectRecord value) then
    isSecretRef value && walk.touchesOnlyId urls next (toObjectRecord value)
  else walked

mutual

def Walk.restorable : State → JsValue → Bool
  | state, .array items => restorableItems state items
  | state, .object entries => restorableEntries state entries
  | _, _ => true

def Walk.restorableItems : State → List JsValue → Bool
  | _, [] => true
  | state, item :: rest =>
    (walk.itemTexts state && isSecretString item || restorable (walk.nextItem state) item) &&
      restorableItems state rest

def Walk.restorableEntries : State → List (JsString × JsValue) → Bool
  | _, [] => true
  | state, (key, value) :: rest =>
    key ≠ protoKey && walk.restorableAt urls state key value
        (restorable (walk.next state key) value) &&
      restorableEntries state rest

end

variable {urls : UrlLibrary} {walk : Walk State} {state : State}

theorem Clean.item {items : List JsValue} (hclean : Clean (.array items))
    {item : JsValue} (hitem : item ∈ items) : Clean item :=
  ⟨(everywhere_array.mp hclean.keys).2 item hitem,
    (everywhere_array.mp hclean.sentinels).2 item hitem,
    (everywhere_array.mp hclean.providers).2 item hitem⟩

variable {entries : List (JsString × JsValue)}

section

variable (hclean : Clean (.object entries))
include hclean

theorem Clean.entry {entry : JsString × JsValue} (hentry : entry ∈ entries) : Clean entry.2 :=
  ⟨(everywhere_object.mp hclean.keys).2 entry hentry,
    (everywhere_object.mp hclean.sentinels).2 entry hentry,
    (everywhere_object.mp hclean.providers).2 entry hentry⟩

theorem Clean.nodup : (Entries.keys entries).Nodup := by
  simpa [keysDistinct] using everywhere_self hclean.keys

theorem Clean.provider (href : isSecretRefShape entries) : isSecretRefWithProvider entries := by
  have hprovider := everywhere_self hclean.providers
  simp only [refHasProvider, href, Bool.not_true, Bool.false_or] at hprovider
  simp [isSecretRefWithProvider, href, hprovider]

end

variable {value : JsValue}

theorem Clean.not_sentinel (hclean : Clean value) : isSentinel value = false := by
  simpa using everywhere_self hclean.sentinels

theorem Clean.ne_sentinel (hclean : Clean value) : value ≠ sentinel := by
  rintro rfl
  have hsentinel := hclean.not_sentinel
  simp [isSentinel, sentinel] at hsentinel

theorem isSentinel_iff : isSentinel value ↔ value = sentinel := by
  cases value <;> simp [isSentinel, sentinel]

theorem isSentinel_redact (value : JsValue) :
    isSentinel (walk.redact urls state value) = isSentinel value := by
  cases value <;> rfl

theorem isObjectLike_redact (value : JsValue) :
    isObjectLike (walk.redact urls state value) = isObjectLike value := by
  cases value <;> rfl

theorem isString_redact (value : JsValue) :
    isString (walk.redact urls state value) = isString value := by
  cases value <;> rfl

section Member

variable {rules : Rules} {value walked : JsValue}

theorem Rules.redactMember_of_hides (hhides : rules.hides urls value) :
    rules.redactMember urls value walked = sentinel := by
  rw [redactMember, if_pos hhides]

theorem Rules.redactMember_of_ref (hhides : rules.hides urls (.object entries) = false)
    (href : rules.refs && isSecretRefShape entries) :
    rules.redactMember urls (.object entries) walked = (redactSecretRefId entries).1 := by
  have href' : rules.refs && isSecretRef (.object entries) := href
  rw [redactMember, hhides, if_neg Bool.false_ne_true, if_pos href']
  rfl

theorem Rules.redactMember_of_walked (hhides : rules.hides urls value = false)
    (href : (rules.refs && isSecretRef value) = false) :
    rules.redactMember urls value walked = walked := by
  rw [redactMember, hhides, href]
  rfl

theorem redactSecretRefId_eq_self (hclean : Clean (.object entries)) :
    (redactSecretRefId entries).1 = .object entries ↔
      isSecretString (readKey (js "id") entries) = false := by
  unfold redactSecretRefId
  split
  · rename_i hsecret
    rw [hsecret]
    simp only [JsValue.object.injEq, Bool.true_eq_false, iff_false]
    intro hset
    have hlookup : entries.lookup (js "id") = some sentinel := by
      rw [← hset]
      exact lookup_set_self
    exact (hclean.entry (mem_of_lookup hlookup)).ne_sentinel rfl
  · rename_i hsecret
    simpa using hsecret

end Member

theorem length_redactEntries_le (entries : List (JsString × JsValue)) :
    (walk.redactEntries urls state entries).length ≤ entries.length := by
  induction entries with
  | nil => simp [redactEntries]
  | cons entry rest ih =>
    obtain ⟨key, value⟩ := entry
    simp only [redactEntries, assign]
    split
    · simp only [List.length_cons]
      omega
    · simpa using ih

variable {key : JsString}

theorem redactAt_eq_self (hclean : Clean value)
    (hvalue : walk.redact urls (walk.next state key) value = value ↔
      walk.touches urls (walk.next state key) value = false) :
    walk.redactAt urls state key value = value ↔ walk.touchesAt urls state key value = false := by
  unfold redactAt touchesAt touchesMember
  set rules := walk.rules state key
  cases hhides : rules.hides urls value with
  | true =>
    rw [redactMember_of_hides hhides]
    simpa using hclean.ne_sentinel.symm
  | false =>
    cases href : rules.refs && isSecretRef value with
    | true =>
      cases value with
      | object entries =>
        rw [redactMember_of_ref hhides href]
        simpa using redactSecretRefId_eq_self hclean
      | _ => simp [isSecretRef] at href
    | false =>
      rw [redactMember_of_walked hhides href]
      simpa using hvalue

theorem redact_eq_self {value : JsValue} (hclean : Clean value) :
    walk.redact urls state value = value ↔ walk.touches urls state value = false := by
  induction value using JsValue.induction generalizing state with
  | array items ih =>
    simp only [redact, touches, JsValue.array.injEq]
    refine mem_induction items (by simp [redactItems, touchesItems]) fun item hmem rest hrest => ?_
    simp only [redactItems, touchesItems, List.cons.injEq, hrest, Bool.or_eq_false_iff]
    apply and_congr_left'
    cases hsecret : walk.itemTexts state && isSecretString item with
    | true => simpa using (hclean.item hmem).ne_sentinel.symm
    | false => simpa using ih item hmem (hclean.item hmem)
  | object entries ih =>
    simp only [redact, touches, JsValue.object.injEq]
    refine mem_induction entries (by simp [redactEntries, touchesEntries]) ?_
    rintro ⟨key, value⟩ hmem rest hrest
    simp only [redactEntries, touchesEntries, assign]
    by_cases hproto : key = protoKey
    · rw [if_pos hproto]
      have hle := @length_redactEntries_le _ urls walk state rest
      simp only [hproto, decide_true, Bool.true_or, Bool.true_eq_false, iff_false]
      intro heq
      have hlength := congrArg List.length heq
      simp only [List.length_cons] at hlength
      omega
    · rw [if_neg hproto]
      simp only [List.cons.injEq, Prod.mk.injEq, true_and, hrest,
        hproto, decide_false, Bool.false_or, Bool.or_eq_false_iff]
      apply and_congr_left'
      exact redactAt_eq_self (hclean.entry hmem) (ih _ hmem (hclean.entry hmem))
  | undefined | null | bool | number | string | function =>
    simp [redact, touches]

section HiddenId

variable {entries : List (JsString × JsValue)} {key : JsString}

theorem readKey_eq_getD (hkey : key ∉ inheritedKeys) :
    readKey key entries = (entries.lookup key).getD .undefined := by
  unfold readKey
  cases entries.lookup key with
  | none => simp [hkey]
  | some value => rfl

theorem lookup_redactEntries (hkey : key ≠ protoKey) :
    (walk.redactEntries urls state entries).lookup key =
      (entries.lookup key).map (walk.redactAt urls state key) := by
  induction entries with
  | nil => rfl
  | cons entry rest ih =>
    obtain ⟨other, value⟩ := entry
    simp only [redactEntries, assign]
    by_cases hproto : other = protoKey
    · have hne : (key == other) = false := by simpa [hproto] using hkey
      rw [if_pos hproto, ih, List.lookup_cons, hne]
    · rw [if_neg hproto, List.lookup_cons, List.lookup_cons]
      cases heq : key == other with
      | true =>
        obtain rfl := eq_of_beq heq
        rfl
      | false => exact ih

theorem lookup_redactEntries_proto :
    (walk.redactEntries urls state entries).lookup protoKey = none := by
  induction entries with
  | nil => rfl
  | cons entry rest ih =>
    obtain ⟨other, value⟩ := entry
    simp only [redactEntries, assign]
    by_cases hproto : other = protoKey
    · rw [if_pos hproto, ih]
    · have hne : (protoKey == other) = false := by
        simpa using Ne.symm hproto
      rw [if_neg hproto, List.lookup_cons, hne]
      exact ih

theorem isSentinel_redactAt (hclean : Clean value) :
    isSentinel (walk.redactAt urls state key value) = (walk.rules state key).hides urls value := by
  unfold redactAt
  set rules := walk.rules state key
  cases hhides : rules.hides urls value with
  | true =>
    rw [redactMember_of_hides hhides]
    exact isSentinel_iff.mpr rfl
  | false =>
    cases href : rules.refs && isSecretRef value with
    | true =>
      cases value with
      | object members =>
        rw [redactMember_of_ref hhides href]
        unfold redactSecretRefId
        split <;> rfl
      | _ => simp [isSecretRef] at href
    | false =>
      rw [redactMember_of_walked hhides href, isSentinel_redact]
      exact hclean.not_sentinel

theorem isString_redactAt (value : JsValue) : isString (walk.redactAt urls state key value) =
      (isString value || (walk.rules state key).hides urls value) := by
  unfold redactAt
  set rules := walk.rules state key
  cases hhides : rules.hides urls value with
  | true =>
    rw [redactMember_of_hides hhides, Bool.or_true]
    rfl
  | false =>
    cases href : rules.refs && isSecretRef value with
    | true =>
      cases value with
      | object members =>
        rw [redactMember_of_ref hhides href]
        unfold redactSecretRefId
        split <;> rfl
      | _ => simp [isSecretRef] at href
    | false =>
      rw [redactMember_of_walked hhides href, isString_redact, Bool.or_false]

theorem source_ne : js "source" ∉ inheritedKeys ∧ js "source" ≠ protoKey ∧
    js "source" ≠ js "id" := by decide

theorem id_ne : js "id" ∉ inheritedKeys ∧ js "id" ≠ protoKey := by
  decide

theorem provider_ne : js "provider" ∉ inheritedKeys ∧
    js "provider" ≠ protoKey ∧ js "provider" ≠ js "id" := by decide

theorem hidesId_eq (hclean : Clean (.object entries)) :
    (isSecretRefShape (walk.redactEntries urls state entries) &&
        isSentinel (readKey (js "id") (walk.redactEntries urls state entries))) =
      walk.hidesId urls state entries := by
  unfold isSecretRefShape hidesId
  rw [readKey_eq_getD source_ne.1, readKey_eq_getD id_ne.1,
    lookup_redactEntries source_ne.2.1, lookup_redactEntries id_ne.2]
  have hid : (isString (((entries.lookup (js "id")).map
        (walk.redactAt urls state (js "id"))).getD .undefined) &&
      isSentinel (((entries.lookup (js "id")).map
        (walk.redactAt urls state (js "id"))).getD .undefined)) =
      (entries.lookup (js "id")).any ((walk.rules state (js "id")).hides urls) := by
    cases hlookup : entries.lookup (js "id") with
    | none => rfl
    | some value =>
      have hvalue := hclean.entry (mem_of_lookup hlookup)
      simp only [Option.map_some, Option.getD_some, Option.any_some]
      rw [isString_redactAt, isSentinel_redactAt hvalue]
      cases (walk.rules state (js "id")).hides urls value <;> simp
  rw [Bool.and_assoc, hid]
  cases entries.lookup (js "source") with
  | none => rfl
  | some value =>
    simp only [Option.map_some, Option.getD_some, Option.any_some]
    rw [isString_redactAt]

variable {path : JsString} {walked : Except RedactionError JsValue}

theorem restoreSecretRefOr_of_not {incoming original : JsValue}
    (hguard : (isSecretRefShape (toObjectRecord incoming) &&
      isSentinel (readKey (js "id") (toObjectRecord incoming))) = false) :
    restoreSecretRefOr incoming original path walked = walked := by
  have hnot : (!isSecretRefShape (toObjectRecord incoming) ||
      !isSentinel (readKey (js "id") (toObjectRecord incoming))) = true := by
    rw [← Bool.not_and, hguard]
    rfl
  simp only [restoreSecretRefOr, maybeRestoreSecretRefId]
  rw [if_pos hnot]
  rfl

theorem restoreSecretRefOr_eq_ok {incoming : List (JsString × JsValue)}
    (hguard : isSecretRefShape incoming && isSentinel (readKey (js "id") incoming)) :
    restoreSecretRefOr (.object incoming) (.object entries) path walked = .ok (.object entries) ↔
      isSecretRefWithProvider entries ∧ isSecretRefWithProvider incoming ∧
        sameString (readKey (js "source") incoming) (readKey (js "source") entries) ∧
        sameString (readKey (js "provider") incoming) (readKey (js "provider") entries) ∧
        set (js "id") (readKey (js "id") entries) incoming = entries := by
  have hnot : ¬ (!isSecretRefShape (toObjectRecord (.object incoming)) ||
      !isSentinel (readKey (js "id") (toObjectRecord (.object incoming)))) = true := by
    rw [toObjectRecord_object, ← Bool.not_and, hguard]
    exact Bool.false_ne_true
  simp only [restoreSecretRefOr, maybeRestoreSecretRefId]
  rw [if_neg hnot]
  by_cases hproviders : isSecretRefWithProvider entries = true
  · by_cases hincoming : isSecretRefWithProvider incoming = true
    · by_cases hsource : sameString (readKey (js "source") incoming)
        (readKey (js "source") entries) = true
      · by_cases hprovider : sameString (readKey (js "provider") incoming)
          (readKey (js "provider") entries) = true
        · simp [hproviders, hincoming, hsource, hprovider, bind, Except.bind, pure, Except.pure]
        · simp [hproviders, hincoming, hsource, hprovider, bind, Except.bind]
      · simp [hproviders, hincoming, hsource, bind, Except.bind]
    · simp [hproviders, hincoming, bind, Except.bind]
  · by_cases hshape : isSecretRefShape entries = true
    · simp [hproviders, hshape, bind, Except.bind]
    · simp [hproviders, hshape, bind, Except.bind]

theorem touchesOnlyId_iff (hclean : Clean (.object entries)) :
    walk.touchesOnlyId urls state entries ↔
      ∀ entry ∈ entries, entry.1 ≠ js "id" → entry.1 ≠ protoKey ∧
        walk.redactAt urls state entry.1 entry.2 = entry.2 := by
  unfold touchesOnlyId
  rw [List.all_eq_true]
  apply forall₂_congr
  intro entry hentry
  have hself : walk.redactAt urls state entry.1 entry.2 = entry.2 ↔
      walk.touchesAt urls state entry.1 entry.2 = false :=
    redactAt_eq_self (hclean.entry hentry) (redact_eq_self (hclean.entry hentry))
  by_cases hid : entry.1 = js "id"
  · simp [hid]
  · simp [hid, hself]

theorem redactEntries_eq_self (hsame : ∀ entry ∈ entries, entry.1 ≠ protoKey ∧
      walk.redactAt urls state entry.1 entry.2 = entry.2) :
    walk.redactEntries urls state entries = entries := by
  induction entries with
  | nil => rfl
  | cons entry rest ih =>
    obtain ⟨other, value⟩ := entry
    obtain ⟨hproto, hvalue⟩ := hsame (other, value) List.mem_cons_self
    have hrest := ih fun entry hentry =>
      hsame entry (List.mem_cons_of_mem _ hentry)
    simp only [redactEntries, assign]
    rw [if_neg hproto, hrest]
    exact congrArg (fun value => (other, value) :: rest) hvalue

theorem set_id_redactEntries (hnodup : (Entries.keys entries).Nodup)
    (hmem : (js "id", value) ∈ entries)
    (hsame : ∀ entry ∈ entries, entry.1 ≠ js "id" → entry.1 ≠ protoKey ∧
      walk.redactAt urls state entry.1 entry.2 = entry.2) :
    Entries.set (js "id") value (walk.redactEntries urls state entries) = entries := by
  induction entries with
  | nil => simp at hmem
  | cons entry rest ih =>
    obtain ⟨other, old⟩ := entry
    have hrest : ∀ entry ∈ rest, entry.1 ≠ js "id" → entry.1 ≠ protoKey ∧
        walk.redactAt urls state entry.1 entry.2 = entry.2 :=
      fun entry hentry => hsame entry (List.mem_cons_of_mem _ hentry)
    simp only [Entries.keys, List.map_cons, List.nodup_cons] at hnodup
    simp only [Walk.redactEntries, assign]
    by_cases hid : other = js "id"
    · subst hid
      have hvalue : value = old := by
        rcases List.mem_cons.mp hmem with heq | hin
        · exact congrArg Prod.snd heq
        · exact absurd (List.mem_map_of_mem hin) hnodup.1
      have hothers : walk.redactEntries urls state rest = rest := by
        apply redactEntries_eq_self
        intro entry hentry
        apply hrest entry hentry
        rintro heq
        exact hnodup.1 (heq ▸ List.mem_map_of_mem hentry)
      rw [if_neg id_ne.2, hothers, hvalue]
      simp [Entries.set]
    · obtain ⟨hproto, hold⟩ := hsame (other, old) List.mem_cons_self hid
      have hin : (js "id", value) ∈ rest := by
        rcases List.mem_cons.mp hmem with heq | hin
        · exact absurd (congrArg Prod.fst heq).symm hid
        · exact hin
      have hne : (js "id" == other) = false := by simpa using Ne.symm hid
      rw [if_neg hproto, Entries.set, hne, if_neg Bool.false_ne_true, ih hnodup.2 hin hrest]
      exact congrArg (fun value => (other, value) :: rest) hold

theorem restoreSecretRefOr_hidden (hclean : Clean (.object entries))
    (hhidden : walk.hidesId urls state entries) :
    restoreSecretRefOr (.object (walk.redactEntries urls state entries))
        (.object entries) path walked = .ok (.object entries) ↔
      isSecretRefShape entries ∧ walk.touchesOnlyId urls state entries := by
  have hguard := @hidesId_eq _ urls walk state _ hclean
  rw [hhidden] at hguard
  rw [restoreSecretRefOr_eq_ok hguard, touchesOnlyId_iff hclean]
  constructor
  · rintro ⟨hproviders, -, -, -, hset⟩
    refine ⟨(Bool.and_eq_true _ _ ▸ hproviders : _ ∧ _).1, ?_⟩
    intro entry hentry hid
    have hold : entries.lookup entry.1 = some entry.2 := Entries.lookup_of_mem hclean.nodup hentry
    have hnew : (walk.redactEntries urls state entries).lookup entry.1 = some entry.2 := by
      rw [← Entries.lookup_set_of_ne hid, hset]
      exact hold
    have hproto : entry.1 ≠ protoKey := by
      intro heq
      rw [heq, lookup_redactEntries_proto] at hnew
      cases hnew
    rw [lookup_redactEntries hproto, hold] at hnew
    exact ⟨hproto, Option.some.inj hnew⟩
  · rintro ⟨hshape, hsame⟩
    have hproviders := hclean.provider hshape
    have hkept : ∀ key, key ∉ inheritedKeys → key ≠ protoKey → key ≠ js "id" →
        readKey key (walk.redactEntries urls state entries) = readKey key entries := by
      intro key hkey hproto hid
      rw [readKey_eq_getD hkey, readKey_eq_getD hkey, lookup_redactEntries hproto]
      cases hlookup : entries.lookup key with
      | none => rfl
      | some value =>
        exact (hsame (key, value) (Entries.mem_of_lookup hlookup) hid).2
    have hsource := hkept (js "source") source_ne.1 source_ne.2.1 source_ne.2.2
    have hprovider := hkept (js "provider") provider_ne.1 provider_ne.2.1 provider_ne.2.2
    have hsame' : ∀ value, isString value → sameString value value := by
      intro value hvalue
      cases value with
      | string text => simp [sameString]
      | _ => cases hvalue
    simp only [isSecretRefWithProvider, Bool.and_eq_true] at hguard hproviders ⊢
    rw [hsource, hprovider]
    refine ⟨hproviders, ⟨hguard.1, hproviders.2⟩, ?_, hsame' _ hproviders.2, ?_⟩
    · simp [isSecretRefShape] at hshape
      exact hsame' _ hshape.1
    · have hid : ∃ value, entries.lookup (js "id") = some value := by
        simp [Walk.hidesId] at hhidden
        obtain ⟨value, hvalue, -⟩ := (Option.any_eq_true _ _).mp hhidden.2
        exact ⟨value, hvalue⟩
      obtain ⟨value, hvalue⟩ := hid
      rw [readKey_of_lookup hvalue]
      exact set_id_redactEntries hclean.nodup (Entries.mem_of_lookup hvalue) hsame

end HiddenId

theorem bind_eq_ok {α β : Type} {result : Except RedactionError α}
    {next : α → Except RedactionError β} {value : β} :
    (result >>= next) = .ok value ↔ ∃ first, result = .ok first ∧ next first = .ok value := by
  cases result with
  | error error => simp [bind, Except.bind]
  | ok first => simp [bind, Except.bind]

variable {original : JsValue}

theorem restore_array_eq_ok {items others : List JsValue} :
    walk.restore (.array items) original state = .ok (.array others) ↔
      walk.restoreItems items (itemsOf original) state = .ok others := by
  simp [restore, bind_eq_ok, pure, Except.pure]

variable {others : List (JsString × JsValue)}

theorem restore_object_eq_ok :
    walk.restore (.object entries) original state = .ok (.object others) ↔
      walk.restoreEntries entries (toObjectRecord original) state = .ok others := by
  simp [restore, bind_eq_ok, pure, Except.pure]

variable {other : JsValue}

theorem restoreItems_cons_eq_ok {item : JsValue} {rest others originals : List JsValue} :
    walk.restoreItems (item :: rest) originals state = .ok (other :: others) ↔
      (if walk.itemTexts state && isSentinel item then
          .ok (originals.headD .undefined)
        else walk.restore item (originals.headD .undefined) (walk.nextItem state)) = .ok other ∧
        walk.restoreItems rest originals.tail state = .ok others := by
  rw [restoreItems]
  by_cases hopens : (walk.itemTexts state && isSentinel item) = true
  · simp [hopens, bind_eq_ok, pure, Except.pure, and_comm]
  · simp [hopens, bind_eq_ok, pure, Except.pure]

theorem length_restoreEntries_le {original restored : List (JsString × JsValue)}
    (hrestore : walk.restoreEntries entries original state = .ok restored) :
    restored.length ≤ entries.length := by
  induction entries generalizing restored with
  | nil =>
    cases hrestore
    exact Nat.le_refl 0
  | cons entry rest ih =>
    obtain ⟨key, value⟩ := entry
    rw [restoreEntries] at hrestore
    simp only [bind_eq_ok, pure, Except.pure, Except.ok.injEq] at hrestore
    obtain ⟨member, -, others, hothers, rfl⟩ := hrestore
    have hle := ih hothers
    unfold assign
    split
    · simp
      omega
    · simpa using hle

theorem restoreEntries_cons_eq_ok {rest original : List (JsString × JsValue)}
    (hkey : key ≠ protoKey) :
    walk.restoreEntries ((key, value) :: rest) original state = .ok ((key, other) :: others) ↔
      (walk.rules state key).restoreMember key value original
          (walk.restore value (readKey key original) (walk.next state key)) =
        .ok other ∧
        walk.restoreEntries rest original state = .ok others := by
  rw [restoreEntries]
  simp only [bind_eq_ok, pure, Except.pure, Except.ok.injEq, assign, if_neg hkey,
    List.cons.injEq, Prod.mk.injEq, true_and]
  constructor
  · rintro ⟨restored, hmember, tail, htail, rfl, rfl⟩
    exact ⟨hmember, htail⟩
  · rintro ⟨hmember, htail⟩
    exact ⟨other, hmember, others, htail, rfl, rfl⟩

theorem restoreEntries_proto_ne_ok {rest original : List (JsString × JsValue)}
    (hlength : rest.length ≤ others.length) :
    walk.restoreEntries ((protoKey, value) :: rest) original state ≠
      .ok ((protoKey, other) :: others) := by
  intro hrestore
  rw [restoreEntries] at hrestore
  simp only [bind_eq_ok, pure, Except.pure, Except.ok.injEq, assign, if_true] at hrestore
  obtain ⟨member, -, tail, htail, rfl⟩ := hrestore
  have hle := length_restoreEntries_le htail
  simp at hle
  omega

theorem isSentinel_readKey (hclean : Clean (.object entries)) :
    isSentinel (readKey key entries) = false := by
  unfold readKey
  split
  · rename_i value hlookup
    exact (hclean.entry (mem_of_lookup hlookup)).not_sentinel
  · split <;> rfl

theorem restoreMember_of_clean {rules : Rules} {original : List (JsString × JsValue)}
    {walked : Except RedactionError JsValue} (hclean : Clean value)
    (hwalked : isObjectLike value = false → walked = .ok value) :
    rules.restoreMember key value original walked = walked := by
  unfold restoreMember
  rw [hclean.not_sentinel, Bool.false_and, if_neg Bool.false_ne_true]
  split
  · split
    · apply restoreSecretRefOr_of_not
      cases value with
      | object entries =>
        rw [toObjectRecord_object, isSentinel_readKey hclean, Bool.and_false]
      | _ => rfl
    · rfl
  · rename_i hprimitive
    exact (hwalked (by simpa using hprimitive)).symm

theorem restore_of_not_objectLike (hvalue : isObjectLike value = false) :
    walk.restore value original state = .ok value := by
  cases value with
  | array items => simp [isObjectLike, isArray] at hvalue
  | object entries => simp [isObjectLike, isRecord] at hvalue
  | undefined | null | bool | number | string | function => rfl

theorem restore_of_clean {value original : JsValue} (hclean : Clean value) :
    walk.restore value original state = .ok value ↔ everywhere withoutProto value := by
  induction value using JsValue.induction generalizing original state with
  | array items ih =>
    rw [restore_array_eq_ok, everywhere_array]
    simp only [withoutProto, true_and]
    generalize itemsOf original = originals
    revert originals
    refine mem_induction items (by simp [restoreItems]) fun item hmem rest hrest originals => ?_
    rw [restoreItems_cons_eq_ok, (hclean.item hmem).not_sentinel, Bool.and_false,
      if_neg Bool.false_ne_true, hrest, ih item hmem (hclean.item hmem), List.forall_mem_cons]
  | object entries ih =>
    rw [restore_object_eq_ok, everywhere_object]
    generalize toObjectRecord original = others
    have hentries : walk.restoreEntries entries others state = .ok entries ↔
        ∀ entry ∈ entries, entry.1 ≠ protoKey ∧ everywhere withoutProto entry.2 := by
      refine mem_induction entries (by simp [restoreEntries]) ?_
      rintro ⟨key, value⟩ hmem rest hrest
      by_cases hproto : key = protoKey
      · subst hproto
        simp [restoreEntries_proto_ne_ok (Nat.le_refl _)]
      · rw [restoreEntries_cons_eq_ok hproto, restoreMember_of_clean
          (hclean.entry hmem) restore_of_not_objectLike, hrest,
          ih (key, value) hmem (hclean.entry hmem)]
        simp [hproto]
    rw [hentries]
    simp only [withoutProto, keys, List.mem_map, decide_eq_true_eq,
      not_exists, Prod.exists, exists_and_right, exists_eq_right]
    constructor
    · intro hall
      exact ⟨fun value hmem => (hall _ hmem).1 rfl, fun entry hentry => (hall entry hentry).2⟩
    · rintro ⟨hkeys, hvalues⟩ entry hentry
      exact ⟨fun heq => hkeys entry.2 (heq ▸ hentry), hvalues entry hentry⟩
  | undefined | null | bool | number | string | function =>
    simp [restore, everywhere, withoutProto]

theorem toObjectRecord_of_not_object
    (hvalue : value.isRecord = false) : toObjectRecord value = [] := by
  cases value with
  | object entries => cases hvalue
  | _ => rfl

section WayBack

variable {rules : Rules} {key : JsString} {value : JsValue} {original : List (JsString × JsValue)}
  {walked : Except RedactionError JsValue}

theorem restoreMember_sentinel (hclean : Clean value) (hlookup : original.lookup key = some value) :
    rules.restoreMember key sentinel original walked = .ok value ↔ rules.opens := by
  have hsentinel : isSentinel sentinel = true := isSentinel_iff.mpr rfl
  have hnot : isObjectLike sentinel = false := rfl
  have hkey : hasKey key original = true := by simp [hasKey, hlookup]
  rw [restoreMember, hsentinel, hnot, Bool.true_and, if_neg Bool.false_ne_true]
  cases rules.opens with
  | true =>
    rw [if_pos rfl, restoreOriginalValueOrThrow, if_pos hkey, readKey_of_lookup hlookup]
    simp
  | false =>
    simpa using hclean.ne_sentinel.symm

theorem restoreMember_ref {members : List (JsString × JsValue)}
    (hclean : Clean (.object members)) (hopens : rules.opensRefs)
    (hshape : isSecretRefShape members)
    (hlookup : original.lookup key = some (.object members))
    (hwalked : (redactSecretRefId members).1 = .object members →
      (walked = .ok (.object members) ↔ everywhere withoutProto (.object members))) :
    rules.restoreMember key (redactSecretRefId members).1 original walked = .ok (.object members) ↔
      isSecretString (readKey (js "id") members) || everywhere withoutProto (.object members) := by
  cases hsecret : isSecretString (readKey (js "id") members) with
  | false =>
    have hself := (redactSecretRefId_eq_self hclean).mpr hsecret
    have hnot : isObjectLike (.object members) = false →
        walked = .ok (.object members) := fun hfalse => by cases hfalse
    rw [hself, restoreMember_of_clean hclean hnot, hwalked hself, Bool.false_or]
  | true =>
    have hset : (redactSecretRefId members).1 = .object (set (js "id") sentinel members) := by
      rw [redactSecretRefId, if_pos hsecret]
    have hid : readKey (js "id") (set (js "id") sentinel members) =
        sentinel := readKey_of_lookup lookup_set_self
    have hkept : ∀ other, other ≠ js "id" → readKey other (set (js "id") sentinel members) =
          readKey other members := by
      intro other hother
      unfold readKey
      rw [lookup_set_of_ne hother]
    have hsource := hkept (js "source") source_ne.2.2
    have hprovider := hkept (js "provider") provider_ne.2.2
    have hproviders := hclean.provider hshape
    have hguard : isSecretRefShape (set (js "id") sentinel members) &&
        isSentinel (readKey (js "id") (set (js "id") sentinel members)) := by
      simp only [isSecretRefShape, Bool.and_eq_true] at hshape ⊢
      rw [hid, hsource]
      exact ⟨⟨hshape.1, rfl⟩, isSentinel_iff.mpr rfl⟩
    have hsame : ∀ value, isString value → sameString value value := by
      intro value hvalue
      cases value with
      | string text => simp [sameString]
      | _ => cases hvalue
    have hback : set (js "id") (readKey (js "id") members)
        (set (js "id") sentinel members) = members := by
      rw [set_set]
      have hpresent : ∃ old, members.lookup (js "id") = some old := by
        simp only [isSecretRefShape, Bool.and_eq_true] at hshape
        cases hold : members.lookup (js "id") with
        | some old => exact ⟨old, rfl⟩
        | none =>
          have hstring := hshape.2
          rw [readKey_eq_getD id_ne.1, hold] at hstring
          cases hstring
      obtain ⟨old, hold⟩ := hpresent
      rw [readKey_of_lookup hold]
      exact set_eq_self hold
    have hincoming : isSecretRefWithProvider (set (js "id") sentinel members) := by
      simp only [isSecretRefWithProvider, Bool.and_eq_true] at hguard hproviders ⊢
      rw [hprovider]
      exact ⟨hguard.1, hproviders.2⟩
    rw [hset, restoreMember]
    simp only [isSentinel, Bool.false_and, Bool.false_eq_true, if_false,
      isObjectLike, isRecord, Bool.true_or, if_true, hopens, Bool.true_or]
    rw [readKey_of_lookup hlookup, restoreSecretRefOr_eq_ok hguard]
    simp [isSecretRefWithProvider, isSecretRefShape] at hproviders
    rw [hsource, hprovider]
    simp
    exact ⟨hclean.provider hshape, hincoming, hsame _ hproviders.1.1, hsame _ hproviders.2, hback⟩

theorem hidesId_of_not_object (hvalue : value.isRecord = false) :
    walk.hidesId urls state (toObjectRecord value) = false := by
  rw [toObjectRecord_of_not_object hvalue]
  rfl

theorem restoreMember_walked {back : Bool} (hclean : Clean value)
    (hlookup : original.lookup key = some value)
    (hprimitive : isObjectLike value = false → walked = .ok value)
    (hback : walked = .ok value ↔ back) :
    rules.restoreMember key (walk.redact urls state value) original walked = .ok value ↔
      if rules.opensRefs && walk.hidesId urls state (toObjectRecord value) then
        isSecretRef value && walk.touchesOnlyId urls state (toObjectRecord value)
      else back := by
  rw [restoreMember, isSentinel_redact, hclean.not_sentinel,
    Bool.false_and, if_neg Bool.false_ne_true, isObjectLike_redact,
    readKey_of_lookup hlookup]
  cases hrecord : value.isRecord with
  | true =>
    cases value with
    | object entries =>
      have hlike : isObjectLike (.object entries) = true := rfl
      rw [if_pos hlike]
      cases rules.opensRefs with
      | false => simpa using hback
      | true =>
        rw [if_pos rfl, Bool.true_and, toObjectRecord_object, redact]
        cases hhidden : walk.hidesId urls state entries with
        | true =>
          rw [if_pos rfl, restoreSecretRefOr_hidden hclean hhidden]
          simp [isSecretRef]
        | false =>
          rw [restoreSecretRefOr_of_not (by
            rw [toObjectRecord_object, hidesId_eq hclean]
            exact hhidden)]
          simpa using hback
    | _ => cases hrecord
  | false =>
    rw [hidesId_of_not_object hrecord, Bool.and_false, if_neg Bool.false_ne_true]
    cases hlike : isObjectLike value with
    | false =>
      have hself : walk.redact urls state value = value := by
        cases value <;> first | rfl | cases hlike
      rw [if_neg Bool.false_ne_true, hself, ← hback]
      simpa using hprimitive hlike
    | true =>
      rw [if_pos rfl]
      split
      · rw [restoreSecretRefOr_of_not]
        · exact hback
        · cases value with
          | object entries => cases hrecord
          | _ => rfl
      · exact hback

theorem restoreMember_redactAt (hclean : Clean value) (hlookup : original.lookup key = some value)
    (hvalue : walk.restore (walk.redact urls (walk.next state key) value) value
        (walk.next state key) = .ok value ↔
      walk.restorable urls (walk.next state key) value) :
    (walk.rules state key).restoreMember key (walk.redactAt urls state key value)
        original (walk.restore (walk.redactAt urls state key value)
          (readKey key original) (walk.next state key)) = .ok value ↔
      walk.restorableAt urls state key value
        (walk.restorable urls (walk.next state key) value) := by
  unfold redactAt restorableAt
  dsimp only
  rw [readKey_of_lookup hlookup]
  cases hhides : (walk.rules state key).hides urls value with
  | true =>
    rw [redactMember_of_hides hhides, if_pos rfl]
    exact restoreMember_sentinel hclean hlookup
  | false =>
    cases href : (walk.rules state key).refs && isSecretRef value with
    | true =>
      cases value with
      | object members =>
        rw [redactMember_of_ref hhides href]
        rw [Bool.and_eq_true] at href
        apply restoreMember_ref hclean (walk.refs_opened state key href.1) href.2 hlookup
        intro hself
        rw [hself]
        exact restore_of_clean hclean
      | _ => simp [isSecretRef] at href
    | false =>
      rw [if_neg Bool.false_ne_true, redactMember_of_walked hhides href]
      apply restoreMember_walked hclean hlookup _ hvalue
      intro hprimitive
      apply hvalue.mpr
      cases value <;> first | rfl | cases hprimitive

end WayBack

theorem restoreItem_redact {item : JsValue} (hclean : Clean item)
    (hitem : walk.restore (walk.redact urls (walk.nextItem state) item) item
        (walk.nextItem state) = .ok item ↔
      walk.restorable urls (walk.nextItem state) item) :
    (if walk.itemTexts state && isSentinel
          (if walk.itemTexts state && isSecretString item then sentinel
            else walk.redact urls (walk.nextItem state) item) then .ok item
      else walk.restore (if walk.itemTexts state && isSecretString item then sentinel
          else walk.redact urls (walk.nextItem state) item) item
        (walk.nextItem state)) = .ok item ↔
      walk.itemTexts state && isSecretString item ||
        walk.restorable urls (walk.nextItem state) item := by
  by_cases hsecret : (walk.itemTexts state && isSecretString item) = true
  · have hsentinel : isSentinel sentinel = true := isSentinel_iff.mpr rfl
    rw [Bool.and_eq_true] at hsecret
    simp [hsecret.1, hsecret.2, hsentinel]
  · simp only [hsecret, Bool.false_eq_true, if_false, isSentinel_redact,
      hclean.not_sentinel, Bool.and_false, Bool.false_or]
    exact hitem

theorem Walk.restore_redact {value : JsValue} (hclean : Clean value) :
    walk.restore (walk.redact urls state value) value state = .ok value ↔
      walk.restorable urls state value := by
  induction value using JsValue.induction generalizing state with
  | array items ih =>
    rw [Walk.redact, restore_array_eq_ok, Walk.restorable, itemsOf]
    refine mem_induction items (by simp [Walk.redactItems, Walk.restoreItems, Walk.restorableItems])
      fun item hmem rest hrest => ?_
    have hitem := @restoreItem_redact _ urls walk state item
      (hclean.item hmem) (ih item hmem (hclean.item hmem))
    rw [Walk.redactItems, restoreItems_cons_eq_ok, Walk.restorableItems,
      List.headD_cons, List.tail_cons, hrest, hitem, Bool.and_eq_true (_ || _)]
  | object entries ih =>
    rw [Walk.redact, restore_object_eq_ok, Walk.restorable, toObjectRecord_object]
    refine @mem_induction _ (fun rest => walk.restoreEntries (walk.redactEntries urls state rest)
      entries state = .ok rest ↔ walk.restorableEntries urls state rest) entries
      (by simp [Walk.redactEntries, Walk.restoreEntries, Walk.restorableEntries]) ?_
    rintro ⟨key, value⟩ hmem rest hrest
    have hlookup := Entries.lookup_of_mem hclean.nodup hmem
    have hvalue := @ih (key, value) hmem (walk.next state key) (hclean.entry hmem)
    rw [Walk.redactEntries, Walk.restorableEntries, assign]
    by_cases hproto : key = protoKey
    · rw [if_pos hproto]
      simp only [hproto, ne_eq, not_true_eq_false, decide_false,
        Bool.false_and, Bool.false_eq_true, iff_false]
      intro hrestore
      have hshort := length_restoreEntries_le hrestore
      have hle := @length_redactEntries_le _ urls walk state rest
      simp at hshort
      omega
    · rw [if_neg hproto, restoreEntries_cons_eq_ok hproto, hrest]
      have hmember := restoreMember_redactAt (hclean.entry hmem) hlookup hvalue
      simp only [Walk.redactAt] at hmember
      rw [hmember]
      simp [hproto]
  | undefined | null | bool | number | string | function =>
    simp [Walk.redact, Walk.restore, Walk.restorable]

end LittleBaby.Redact
