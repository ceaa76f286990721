import LittleBaby.ConfigWritePrepare

/-!
# Creating and applying merge patches

The patch that `createMergePatch` makes of two JSON values takes the first one
to the second one.  A base that is no object counts as an empty object.
-/

namespace LittleBaby.Config

open JsString JsValue Entries

inductive IsJson : JsValue → Prop
  | null : IsJson .null
  | bool (value : Bool) : IsJson (.bool value)
  | number (value : JsNumber) : IsJson (.number value)
  | string (value : JsString) : IsJson (.string value)
  | array {items : List JsValue} (hitems : ∀ item ∈ items, IsJson item) : IsJson (.array items)
  | object {entries : List (JsString × JsValue)} (hnodup : (keys entries).Nodup)
      (hmembers : ∀ entry ∈ entries, IsJson entry.2) : IsJson (.object entries)

def Regular (base target : JsValue) : Prop :=
  ∀ path before, base.get? path = some (.object before) → ∀ key ∈ keys before,
    isBlockedObjectKey key = false ∧ ∀ after, target.get? path = some (.object after) →
      key ∈ inheritedKeys → key ∈ keys after

section Values

variable {base target : List (JsString × JsValue)} {value other : JsValue}

theorem IsJson.nodup (hjson : IsJson (.object base)) : (keys base).Nodup := by
  cases hjson
  assumption

theorem IsJson.of_mem (hjson : IsJson (.object base)) {entry : JsString × JsValue}
    (hmem : entry ∈ base) : IsJson entry.2 := by
  cases hjson with
  | object _ hmembers => exact hmembers entry hmem

theorem IsJson.isData (hjson : IsJson value) : value.isData = true := by
  induction hjson with
  | @array items _ ih =>
    rw [JsValue.isData]
    induction items with
    | nil => rfl
    | cons item rest ih' => simp_all [itemsAreData]
  | @object entries _ _ ih =>
    rw [JsValue.isData]
    induction entries with
    | nil => rfl
    | cons entry rest ih' => simp_all [entriesAreData, keys]
  | _ => rfl

theorem deepEqual_refl (hjson : IsJson value) : deepEqual value value = true := by
  induction hjson with
  | @array items _ ih =>
    rw [deepEqual]
    induction items with
    | nil => rfl
    | cons item rest ih' => simp_all [deepEqualItems]
  | object hnodup _ ih =>
    rw [deepEqual, Bool.and_eq_true, deepEqualEntries_iff]
    exact ⟨by simp, fun entry hmem => ⟨entry.2, lookup_of_mem hnodup hmem, ih entry hmem⟩⟩
  | _ => simp [deepEqual]

theorem deepEqual_of_unedited (hbase : (keys base).Nodup) (htarget : (keys target).Nodup)
    (hunedited : ∀ key, unedited (base.lookup key) (target.lookup key) = true) :
    deepEqual (.object base) (.object target) = true := by
  have hkeys : (keys base).Perm (keys target) := by
    rw [List.perm_ext_iff_of_nodup hbase htarget]
    intro key
    have hkey := hunedited key
    rw [mem_keys_iff, mem_keys_iff]
    cases hbefore : base.lookup key <;> cases hafter : target.lookup key <;>
      simp_all [unedited]
  have hlength : base.length = target.length := by simpa [keys] using hkeys.length_eq
  rw [deepEqual, Bool.and_eq_true, decide_eq_true_eq, deepEqualEntries_iff]
  refine ⟨hlength, fun entry hmem => ?_⟩
  have hkey := hunedited entry.1
  rw [lookup_of_mem hbase hmem] at hkey
  cases hafter : target.lookup entry.1 with
  | none => simp [hafter, unedited] at hkey
  | some after =>
    rw [hafter] at hkey
    exact ⟨after, rfl, hkey⟩

theorem Regular.lookup {key : JsString} (hregular : Regular (.object base) (.object target))
    (hvalue : base.lookup key = some value) (hother : target.lookup key = some other) :
    Regular value other := by
  intro path before hbefore
  have hstep := hregular (key :: path) before
  simp only [get?_object_cons, hvalue, hother, Option.bind_some] at hstep
  exact hstep hbefore

theorem comparable_of_json (hvalue : IsJson value) : ∀ {other}, IsJson other →
    Regular value other → Comparable value other := by
  induction hvalue with
  | @object base hnodup _ ih =>
    intro other hother hregular
    cases hother with
    | @object target htarget hmembers =>
      refine .members hnodup htarget (IsJson.object htarget hmembers).isData ?_ ?_
      · intro key hkey
        exact (hregular [] base rfl key hkey).2 target rfl
      · intro entry hmem after hafter
        exact ih entry hmem (hmembers _ (mem_of_lookup hafter))
          (hregular.lookup (lookup_of_mem hnodup hmem) hafter)
    | array hitems => exact .whole rfl (IsJson.array hitems).isData
    | _ => exact .whole rfl rfl
  | _ => exact fun hother _ => .whole rfl hother.isData

theorem nodup_applyEntries {patch : List (JsString × JsValue)} {result}
    (hnodup : (keys result).Nodup) : (keys (applyEntries result patch)).Nodup := by
  induction patch generalizing result with
  | nil => simpa using hnodup
  | cons entry rest ih =>
    rw [applyEntries_cons]
    split_ifs
    · exact ih hnodup
    · cases patched (readKey entry.1 result) entry.2 with
      | none => exact ih (nodup_keys_erase hnodup)
      | some merged => exact ih (nodup_keys_set hnodup)

end Values

section Inverse

variable {base target : JsValue}

theorem deepEqual_patched (hcomparable : Comparable base target) : IsJson target → Clean target →
    Regular base target → ∀ patch, createMergePatch base target = some patch →
      deepEqual (applyMergePatch base patch) target = true := by
  induction hcomparable with
  | @whole base target hrecords hdata =>
    intro hjson hclean _ patch hpatch
    rw [createMergePatch_of_not_record hrecords, structuredClone, if_pos hdata] at hpatch
    have hspread : target.isRecord = true → spread base = [] := by
      intro hrecord
      cases base <;> simp_all [spread, isRecord]
    rw [← Option.some.inj hpatch, applyMergePatch_empty hclean hspread]
    exact deepEqual_refl hjson
  | @members base target hbase htarget hdata hkept hbelow ih =>
    intro hjson hclean hregular patch hpatch
    cases hclean with
    | leaf hrecord => contradiction
    | members _ hentries hcleanBelow =>
    obtain ⟨members, hmembers, hnodup, hlookup⟩ :=
      createMergePatch_spec (.members hbase htarget hdata hkept hbelow)
    rw [hmembers, Option.some.injEq] at hpatch
    rw [← hpatch, applyMergePatch]
    apply deepEqual_of_unedited (nodup_applyEntries hbase) htarget
    intro key
    have hresult : (applyEntries base members).lookup key =
        (patchMember (base.lookup key) (target.lookup key)).elim (base.lookup key)
          (patched (readKey key base)) := by
      rw [← hlookup]
      cases hmember : members.lookup key with
      | none => exact lookup_applyEntries_of_not_mem (lookup_eq_none.mp hmember)
      | some value =>
        have hblocked : isBlockedObjectKey key = false := by
          cases hbefore : base.lookup key with
          | some before =>
            exact (hregular [] base rfl key (mem_keys_iff.mpr ⟨before, hbefore⟩)).1
          | none =>
            rw [hlookup, hbefore] at hmember
            exact (hentries (key, value) (mem_of_lookup hmember)).1
        rw [lookup_applyEntries hnodup hblocked, hmember]
        rfl
    rw [hresult]
    cases hafter : target.lookup key with
    | none => cases base.lookup key <;> simp [patchMember, patched, isNull, unedited]
    | some after =>
      have hmem := mem_of_lookup hafter
      have hnull : isNull after = false := (hentries _ hmem).2
      have hafterClean : Clean after := hcleanBelow _ hmem
      have hafterJson : IsJson after := hjson.of_mem hmem
      have hequal := deepEqual_refl hafterJson
      have hwhole : ∀ old, (after.isRecord = true → old.isRecord = false) →
          patched old after = some after := by
        intro old hold
        have hempty := applyMergePatch_empty hafterClean fun _ => (rfl : spread (.object []) = [])
        by_cases hrecord : after.isRecord = true
        · simp [patched, hnull, hrecord, hold hrecord, hempty]
        · simp [patched, hnull, hrecord]
      cases hbefore : base.lookup key with
      | none =>
        have hrecord : (readKey key base).isRecord = false := by
          rw [readKey, hbefore]
          dsimp only
          split_ifs <;> rfl
        simp [patchMember, hwhole _ fun _ => hrecord, unedited, hequal]
      | some before =>
        rw [readKey_of_lookup hbefore]
        by_cases hrecords : (before.isRecord && after.isRecord) = true
        · have hinverse := ih (key, before) (mem_of_lookup hbefore) after hafter hafterJson
            hafterClean (hregular.lookup hbefore hafter)
          have hchild := hbelow (key, before) (mem_of_lookup hbefore) after hafter
          cases before <;> cases after <;> simp only [isRecord, Bool.and_self, Bool.and_false,
            Bool.and_true, Bool.false_eq_true] at hrecords
          obtain ⟨child, hpatch, -⟩ := createMergePatch_spec hchild
          have hmember := hinverse _ hpatch
          cases child with
          | nil =>
            rw [applyMergePatch, applyEntries_nil] at hmember
            simpa [patchMember, isRecord, hpatch, isEmptyRecord, Option.filter, unedited, spread]
              using hmember
          | cons entry rest =>
            simpa [patchMember, isRecord, hpatch, isEmptyRecord, Option.filter, unedited, patched,
              isNull] using hmember
        · have hold : after.isRecord = true → before.isRecord = false := by
            intro hrecord
            simpa [hrecord] using hrecords
          by_cases hsame : deepEqual before after = true
          · simp [patchMember, hrecords, hsame, unedited]
          · simp [patchMember, hrecords, hsame, hwhole before hold, unedited, hequal]

/-- The patch takes the base to the target, and it is an object without keys
exactly if the target is an object and equal to the base. -/
theorem mergePatch_inverse (hbase : IsJson base) (htarget : IsJson target) (hclean : Clean target)
    (hregular : Regular base target) :
    ∃ patch, createMergePatch base target = some patch ∧
      deepEqual (applyMergePatch base patch) target = true ∧
      (isEmptyRecord patch = true ↔ target.isRecord = true ∧
        deepEqual (.object (spread base)) target = true) := by
  have hcomparable := comparable_of_json hbase htarget hregular
  obtain ⟨patch, hpatch⟩ := createMergePatch_total hcomparable
  have hinverse := deepEqual_patched hcomparable htarget hclean hregular patch hpatch
  refine ⟨patch, hpatch, hinverse, ?_, ?_⟩
  · intro hempty
    cases patch with
    | object entries =>
      cases entries with
      | nil =>
        rw [applyMergePatch, applyEntries_nil] at hinverse
        refine ⟨?_, hinverse⟩
        cases target <;> simp_all [deepEqual, isRecord]
      | cons => contradiction
    | _ => contradiction
  · rintro ⟨hrecord, hequal⟩
    by_cases hrecords : base.isRecord = true
    · have hspread : .object (spread base) = base := by
        cases base <;> simp_all [isRecord, spread]
      rw [hspread] at hequal
      rw [createMergePatch_of_deepEqual hcomparable (by simp [hrecord, hrecords]) hequal] at hpatch
      rw [← Option.some.inj hpatch]
      rfl
    · have hspread : spread base = [] := by
        cases base <;> simp_all [isRecord, spread]
      rw [createMergePatch_of_not_record (by simp [hrecords]), structuredClone,
        if_pos htarget.isData] at hpatch
      rw [← Option.some.inj hpatch]
      cases target with
      | object entries =>
        cases entries with
        | nil => rfl
        | cons => simp [hspread, deepEqual] at hequal
      | _ => contradiction

theorem mergePatch_inverse_of_new_member :
    ∃ patch, createMergePatch (.object []) (.object [(js "a", .bool true)]) = some patch ∧
      deepEqual (applyMergePatch (.object []) patch) (.object [(js "a", .bool true)]) = true ∧
      (isEmptyRecord patch = true ↔ (JsValue.object [(js "a", .bool true)]).isRecord = true ∧
        deepEqual (.object []) (.object [(js "a", .bool true)]) = true) := by
  apply @mergePatch_inverse (.object [])
  · exact .object List.nodup_nil (by simp)
  · exact .object (by decide) (by simpa using IsJson.bool true)
  · exact .members (by decide) (by decide) (by simpa using Clean.leaf rfl)
  · intro path before hbefore
    cases path <;> simp_all [get?, keys]

/-- A base that is no object has a patch without keys, too, and deleting the
name of an inherited property throws. -/
theorem mergePatch_of_null_and_inherited_key :
    createMergePatch .null (.object []) = some (.object []) ∧
      deepEqual .null (.object []) = false ∧
      createMergePatch (.object [(js "toString", .null)]) (.object []) = none := by
  refine ⟨rfl, rfl, ?_⟩
  decide

end Inverse

end LittleBaby.Config
