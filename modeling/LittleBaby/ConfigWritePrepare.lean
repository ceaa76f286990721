import LittleBaby.ConfigMergePatch

/-!
# What a config write persists

A write compares the runtime config, which has defaults filled in, with the
config that is to hold next, and patches the difference into the source
config.  A function value makes `structuredClone` throw, which is `none` here.
-/

namespace LittleBaby.Config

open JsString JsValue Entries

def isEmptyRecord : JsValue → Bool
  | .object [] => true
  | _ => false

mutual

def createMergePatch : JsValue → JsValue → Option JsValue
  | .object base, .object target => do
      let changed ← changedEntries base target
      let added ← addedEntries base target
      some (.object (changed ++ added))
  | _, target => target.structuredClone

/-- The loop of `createMergePatch` over the keys of the base. -/
def changedEntries : List (JsString × JsValue) → List (JsString × JsValue) →
    Option (List (JsString × JsValue))
  | [], _ => some []
  | (key, baseValue) :: rest, target => do
      let targetValue := readKey key target
      let changed ← changedEntries rest target
      if !hasKey key target then some ((key, .null) :: changed)
      else if baseValue.isRecord && targetValue.isRecord then
        let childPatch ← createMergePatch baseValue targetValue
        if isEmptyRecord childPatch then some changed
        else some ((key, childPatch) :: changed)
      else if deepEqual baseValue targetValue then some changed
      else
        let value ← targetValue.structuredClone
        some ((key, value) :: changed)

/-- The loop of `createMergePatch` over the keys of the target alone. -/
def addedEntries (base : List (JsString × JsValue)) :
    List (JsString × JsValue) → Option (List (JsString × JsValue))
  | [] => some []
  | (key, targetValue) :: rest => do
      let added ← addedEntries base rest
      if (base.lookup key).isSome then some added
      else if hasKey key base && deepEqual (readKey key base) targetValue then
        some added
      else
        let value ← targetValue.structuredClone
        some ((key, value) :: added)

end

mutual

def projectSourceOntoRuntimeShape : JsValue → JsValue → Option JsValue
  | .object source, .object runtime =>
    (projectEntries source runtime).map .object
  | source, _ => source.structuredClone

def projectEntries : List (JsString × JsValue) → List (JsString × JsValue) →
    Option (List (JsString × JsValue))
  | [], _ => some []
  | (key, sourceValue) :: rest, runtime => do
      let projected ← projectEntries rest runtime
      if !hasKey key runtime then some projected
      else
        let value ← projectSourceOntoRuntimeShape sourceValue (readKey key runtime)
        some ((key, value) :: projected)

end

def readRootSchemaUri : JsValue → Option JsString
  | .object entries =>
    match readKey (js "$schema") entries with
    | .string uri => some uri
    | _ => none
  | _ => none

def hasOwnRootSchemaKey : JsValue → Bool
  | .object entries => (entries.lookup (js "$schema")).isSome
  | _ => false

def preserveRootSchemaUri (rootAuthoredConfig nextConfig persistedCandidate : JsValue) : JsValue :=
  if hasOwnRootSchemaKey nextConfig then persistedCandidate
  else
    match readRootSchemaUri rootAuthoredConfig, persistedCandidate with
    | some uri, .object entries =>
      .object (set (js "$schema") (.string uri) entries)
    | _, _ => persistedCandidate

def resolvePersistCandidateForWrite (runtimeConfig sourceConfig nextConfig : JsValue)
    (rootAuthoredConfig : Option JsValue) : Option JsValue := do
  let patch ← createMergePatch runtimeConfig nextConfig
  let projectedSource ← projectSourceOntoRuntimeShape sourceConfig runtimeConfig
  some (preserveRootSchemaUri (rootAuthoredConfig.getD sourceConfig) nextConfig
    (applyMergePatch projectedSource patch))

mutual

/-- The keys of every object are distinct, none of them is blocked or the name
of an inherited property, and no member is `null`. -/
def isTidy : JsValue → Bool
  | .object entries => decide (keys entries).Nodup && areTidy entries
  | _ => true

def areTidy : List (JsString × JsValue) → Bool
  | [] => true
  | (key, value) :: rest =>
    decide (key ∉ inheritedKeys) && !isBlockedObjectKey key &&
      !isNull value && isTidy value && areTidy rest

end

structure IsPlain (value : JsValue) : Prop where
  tidy : isTidy value = true
  data : value.isData = true

structure PlainConfig where
  entries : List (JsString × JsValue)
  plain : IsPlain (.object entries)

def PlainConfig.value (config : PlainConfig) : JsValue := .object config.entries

section Tidy

variable {key : JsString} {entries : List (JsString × JsValue)} {value : JsValue}

theorem nodup_of_isTidy (htidy : isTidy (.object entries) = true) : (keys entries).Nodup := by
  simp only [isTidy, Bool.and_eq_true, decide_eq_true_eq] at htidy
  exact htidy.1

theorem areTidy_of_isTidy (htidy : isTidy (.object entries) = true) : areTidy entries = true := by
  simp only [isTidy, Bool.and_eq_true] at htidy
  exact htidy.2

theorem areTidy_cons {rest : List (JsString × JsValue)} : areTidy ((key, value) :: rest) = true ↔
      key ∉ inheritedKeys ∧ isBlockedObjectKey key = false ∧
        isNull value = false ∧ isTidy value = true ∧ areTidy rest = true := by
  simp [areTidy, and_assoc]

theorem areTidy_lookup (htidy : areTidy entries = true)
    (hlookup : entries.lookup key = some value) :
    key ∉ inheritedKeys ∧ isBlockedObjectKey key = false ∧
      isNull value = false ∧ isTidy value = true := by
  induction entries with
  | nil => simp at hlookup
  | cons entry rest ih =>
    obtain ⟨other, old⟩ := entry
    obtain ⟨hinherited, hblocked, hnull, hold, hrest⟩ := areTidy_cons.mp htidy
    by_cases hkey : key = other
    · subst hkey
      rw [List.lookup_cons_self] at hlookup
      cases hlookup
      exact ⟨hinherited, hblocked, hnull, hold⟩
    · have hne : (key == other) = false := by simpa using hkey
      rw [List.lookup_cons, hne] at hlookup
      exact ih hrest hlookup

theorem IsPlain.lookup (hplain : IsPlain (.object entries))
    (hlookup : entries.lookup key = some value) : IsPlain value where
  tidy := (areTidy_lookup (areTidy_of_isTidy hplain.tidy) hlookup).2.2.2
  data := isData_of_lookup hplain.data hlookup

theorem applyEntries_of_disjoint {result : List (JsString × JsValue)}
    (hnodup : (keys (result ++ entries)).Nodup)
    (hclean : ∀ entry ∈ entries, isBlockedObjectKey entry.1 = false ∧ isNull entry.2 = false)
    (hmerge : ∀ entry ∈ entries, applyMergePatch (.object []) entry.2 = entry.2) :
    applyEntries result entries = result ++ entries := by
  induction entries generalizing result with
  | nil => simp
  | cons entry rest ih =>
    obtain ⟨key, value⟩ := entry
    have ⟨⟨hblocked, hnull⟩, hrest⟩ := List.forall_mem_cons.mp hclean
    have habsent : result.lookup key = none := by
      apply lookup_eq_none.mpr
      intro hmem
      rw [keys, List.map_append] at hnodup
      exact List.disjoint_of_nodup_append hnodup hmem List.mem_cons_self
    have hread : (readKey key result).isRecord = false := by
      rw [readKey, habsent]
      dsimp only
      split_ifs <;> rfl
    have hpatched : patched (readKey key result) value = some value := by
      have hvalue : applyMergePatch (.object []) value = value :=
        hmerge (key, value) List.mem_cons_self
      simp [patched, hnull, hread, hvalue]
    rw [applyEntries_cons, hblocked, hpatched]
    simp only [Bool.false_eq_true, if_false]
    rw [set_of_lookup_eq_none habsent, List.append_cons result (key, value) rest]
    rw [List.append_cons] at hnodup
    exact ih hnodup hrest fun entry hmem =>
      hmerge entry (List.mem_cons_of_mem _ hmem)

/-- The keys of every object are distinct, none of them is blocked, and no member is `null`. -/
inductive Clean : JsValue → Prop
  | leaf {value : JsValue} (hrecord : value.isRecord = false) : Clean value
  | members {entries : List (JsString × JsValue)} (hnodup : (keys entries).Nodup)
      (hclean : ∀ entry ∈ entries, isBlockedObjectKey entry.1 = false ∧ isNull entry.2 = false)
      (hbelow : ∀ entry ∈ entries, Clean entry.2) : Clean (.object entries)

theorem clean_of_isTidy (value : JsValue) : isTidy value = true → Clean value := by
  induction value using JsValue.induction with
  | object entries ih =>
    intro htidy
    have hnodup := nodup_of_isTidy htidy
    have hmember := fun entry (hmem : entry ∈ entries) =>
      areTidy_lookup (areTidy_of_isTidy htidy) (lookup_of_mem hnodup hmem)
    exact .members hnodup (fun entry hmem => ⟨(hmember entry hmem).2.1, (hmember entry hmem).2.2.1⟩)
      fun entry hmem => ih entry hmem (hmember entry hmem).2.2.2
  | _ => exact fun _ => .leaf rfl

theorem applyMergePatch_empty {base value : JsValue} (hclean : Clean value)
    (hbase : value.isRecord = true → spread base = []) : applyMergePatch base value = value := by
  induction hclean generalizing base with
  | @leaf value hrecord => cases value <;> simp_all [applyMergePatch, isRecord]
  | @members entries hnodup hclean _ ih =>
    have happly : applyEntries [] entries = [] ++ entries :=
      applyEntries_of_disjoint (by simpa using hnodup) hclean fun entry hmem =>
        ih entry hmem fun _ => rfl
    rw [applyMergePatch, hbase rfl, happly, List.nil_append]

end Tidy

/-- Values that can be compared: the keys are distinct, the target is data, and
no key that names an inherited property is missing in the target alone. -/
inductive Comparable : JsValue → JsValue → Prop
  | whole {base target : JsValue} (hrecords : (base.isRecord && target.isRecord) = false)
      (hdata : target.isData = true) : Comparable base target
  | members {base target : List (JsString × JsValue)} (hbase : (keys base).Nodup)
      (htarget : (keys target).Nodup) (hdata : entriesAreData target = true)
      (hkept : ∀ key ∈ keys base, key ∈ inheritedKeys → key ∈ keys target)
      (hbelow : ∀ entry ∈ base, ∀ other, target.lookup entry.1 = some other →
        Comparable entry.2 other) : Comparable (.object base) (.object target)

theorem comparable_of_plain (base : JsValue) : isTidy base = true →
    ∀ {target}, IsPlain target → Comparable base target := by
  induction base using JsValue.induction with
  | object base ih =>
    intro hbase target htarget
    cases target with
    | object target =>
      have hnodup := nodup_of_isTidy hbase
      have hmember := fun {key value} (hlookup : base.lookup key = some value) =>
        areTidy_lookup (areTidy_of_isTidy hbase) hlookup
      refine .members hnodup (nodup_of_isTidy htarget.tidy) htarget.data ?_ ?_
      · intro key hkey hinherited
        have ⟨value, hlookup⟩ := mem_keys_iff.mp hkey
        exact absurd hinherited (hmember hlookup).1
      · intro entry hmem other hother
        exact ih entry hmem (hmember (lookup_of_mem hnodup hmem)).2.2.2 (htarget.lookup hother)
    | _ => exact .whole rfl htarget.data
  | _ => exact fun _ _ htarget => .whole rfl htarget.data

def patchMember : Option JsValue → Option JsValue → Option JsValue
  | some base, some target =>
    if base.isRecord && target.isRecord then
      (createMergePatch base target).filter fun patch => !isEmptyRecord patch
    else if deepEqual base target then none
    else some target
  | some _, none => some .null
  | none, target => target

section Patch

variable {key : JsString} {base target rest : List (JsString × JsValue)} {value : JsValue}

def entryOf (key : JsString) (member : Option JsValue) : List (JsString × JsValue) :=
  member.toList.map fun value => (key, value)

theorem changedEntries_cons {changed : List (JsString × JsValue)}
    (hkept : key ∈ inheritedKeys → key ∈ keys target) (hdata : entriesAreData target = true)
    (htotal : ∀ other, target.lookup key = some other →
      ∃ patch, createMergePatch value other = some patch)
    (hchanged : changedEntries rest target = some changed) :
    changedEntries ((key, value) :: rest) target =
      some (entryOf key (patchMember (some value) (target.lookup key)) ++ changed) := by
  rw [changedEntries]
  simp only [hchanged, Option.bind_eq_bind, Option.bind_some]
  cases hlookup : target.lookup key with
  | none =>
    have hkey : key ∉ inheritedKeys := mt hkept (lookup_eq_none.mp hlookup)
    simp [hasKey, hlookup, hkey, patchMember, entryOf]
  | some targetValue =>
    have hvalue : targetValue.isData = true := isData_of_lookup hdata hlookup
    obtain ⟨patch, hpatch⟩ := htotal targetValue hlookup
    rw [readKey_of_lookup hlookup]
    by_cases hrecords : (value.isRecord && targetValue.isRecord) = true
    · by_cases hempty : isEmptyRecord patch = true
      · simp [hasKey, hlookup, patchMember, entryOf, hrecords, hpatch, hempty]
      · simp [hasKey, hlookup, patchMember, entryOf, hrecords, hpatch, hempty, Option.filter]
    · by_cases hequal : deepEqual value targetValue = true
      · simp [hasKey, hlookup, patchMember, entryOf, hrecords, hequal]
      · simp [hasKey, hlookup, patchMember, entryOf, hrecords, hequal, structuredClone, hvalue]

theorem entryOf_spec (member : JsString → JsValue → Option JsValue)
    {rest out : List (JsString × JsValue)} (hkey : key ∉ keys rest)
    (hsub : (keys out).Sublist (keys rest))
    (hlookup : ∀ key, out.lookup key = (rest.lookup key).bind (member key)) :
    (keys (entryOf key (member key value) ++ out)).Sublist (keys ((key, value) :: rest)) ∧
      ∀ other, (entryOf key (member key value) ++ out).lookup other =
        (((key, value) :: rest).lookup other).bind (member other) := by
  have habsent : out.lookup key = none := lookup_eq_none.mpr fun hmem => hkey (hsub.subset hmem)
  constructor
  · cases member key value with
    | none => exact hsub.cons key
    | some value => exact hsub.cons_cons key
  · intro other
    by_cases hother : other = key
    · subst hother
      cases hmember : member other value <;> simp [entryOf, habsent, hmember]
    · have hne : (other == key) = false := by simpa using hother
      cases member key value <;> simp [entryOf, List.lookup_cons, hne, hlookup]

theorem changedEntries_spec (hnodup : (keys base).Nodup)
    (hkept : ∀ key ∈ keys base, key ∈ inheritedKeys → key ∈ keys target)
    (hdata : entriesAreData target = true)
    (htotal : ∀ entry ∈ base, ∀ other, target.lookup entry.1 = some other →
      ∃ patch, createMergePatch entry.2 other = some patch) :
    ∃ changed, changedEntries base target = some changed ∧ (keys changed).Sublist (keys base) ∧
      ∀ key, changed.lookup key = (base.lookup key).bind fun value =>
        patchMember (some value) (target.lookup key) := by
  induction base with
  | nil => exact ⟨[], by simp [changedEntries], List.Sublist.refl _, by simp⟩
  | cons entry rest ih =>
    obtain ⟨first, value⟩ := entry
    obtain ⟨hfirst, hrest⟩ := List.nodup_cons.mp hnodup
    obtain ⟨hfirstKept, hrestKept⟩ := List.forall_mem_cons.mp hkept
    obtain ⟨changed, hchanged, hsub, hlookup⟩ := ih hrest hrestKept
      fun entry hmem => htotal entry (List.mem_cons_of_mem _ hmem)
    exact ⟨_, changedEntries_cons hfirstKept hdata
      (htotal (first, value) List.mem_cons_self) hchanged,
      entryOf_spec (fun key value => patchMember (some value) (target.lookup key))
        hfirst hsub hlookup⟩

theorem addedEntries_spec (base : List (JsString × JsValue)) (hnodup : (keys target).Nodup)
    (hdata : entriesAreData target = true) :
    ∃ added, addedEntries base target = some added ∧ (keys added).Sublist (keys target) ∧
      ∀ key, added.lookup key = (target.lookup key).bind fun value =>
        if (base.lookup key).isSome then none else some value := by
  induction target with
  | nil => exact ⟨[], by simp [addedEntries], List.Sublist.refl _, by simp⟩
  | cons entry rest ih =>
    obtain ⟨first, value⟩ := entry
    obtain ⟨hfirst, hrest⟩ := List.nodup_cons.mp hnodup
    simp only [entriesAreData, Bool.and_eq_true] at hdata
    obtain ⟨added, hadded, hsub, hlookup⟩ := ih hrest hdata.2
    have hcons : addedEntries base ((first, value) :: rest) =
        some (entryOf first (if (base.lookup first).isSome then none
          else some value) ++ added) := by
      rw [addedEntries]
      cases hbase : base.lookup first with
      | some old => simp [hadded, entryOf]
      | none =>
        have hequal : (hasKey first base && deepEqual (readKey first base) value) = false := by
          rw [hasKey, readKey, hbase]
          cases value <;> simp_all [deepEqual, isData]
        simp [hadded, hequal, entryOf, structuredClone, hdata.1]
    exact ⟨_, hcons, entryOf_spec
      (fun key value => if (base.lookup key).isSome then none else some value) hfirst hsub hlookup⟩

theorem createMergePatch_object (hnodup : (keys base).Nodup)
    (htargetNodup : (keys target).Nodup) (hdata : entriesAreData target = true)
    (hkept : ∀ key ∈ keys base, key ∈ inheritedKeys → key ∈ keys target)
    (htotal : ∀ entry ∈ base, ∀ other, target.lookup entry.1 = some other →
      ∃ patch, createMergePatch entry.2 other = some patch) :
    ∃ patch, createMergePatch (.object base) (.object target) = some (.object patch) ∧
      (keys patch).Nodup ∧
      ∀ key, patch.lookup key = patchMember (base.lookup key) (target.lookup key) := by
  obtain ⟨changed, hchanged, hchangedSub, hchangedLookup⟩ :=
    changedEntries_spec hnodup hkept hdata htotal
  obtain ⟨added, hadded, haddedSub, haddedLookup⟩ :=
    addedEntries_spec base htargetNodup hdata
  refine ⟨changed ++ added, by simp [createMergePatch, hchanged, hadded], ?_, fun key => ?_⟩
  · rw [keys, List.map_append]
    apply List.Nodup.append (hchangedSub.nodup hnodup) (haddedSub.nodup htargetNodup)
    intro key hkey hother
    obtain ⟨old, hold⟩ := mem_keys_iff.mp (hchangedSub.subset hkey)
    obtain ⟨new, hnew⟩ := mem_keys_iff.mp hother
    rw [haddedLookup, hold] at hnew
    simp at hnew
  · rw [List.lookup_append, hchangedLookup, haddedLookup]
    cases hbase : base.lookup key with
    | none => simp [patchMember]
    | some value => simp

theorem createMergePatch_of_not_record {base target : JsValue}
    (hrecords : (base.isRecord && target.isRecord) = false) :
    createMergePatch base target = target.structuredClone := by
  cases base <;> cases target <;> simp_all [createMergePatch, isRecord]

theorem createMergePatch_total {base target : JsValue} (hcomparable : Comparable base target) :
    ∃ patch, createMergePatch base target = some patch := by
  induction hcomparable with
  | whole hrecords hdata =>
    rw [createMergePatch_of_not_record hrecords, structuredClone, if_pos hdata]
    exact ⟨_, rfl⟩
  | members hbase htarget hdata hkept _ ih =>
    obtain ⟨patch, hpatch, -⟩ := createMergePatch_object hbase htarget hdata hkept ih
    exact ⟨_, hpatch⟩

theorem createMergePatch_spec (hcomparable : Comparable (.object base) (.object target)) :
    ∃ patch, createMergePatch (.object base) (.object target) = some (.object patch) ∧
      (keys patch).Nodup ∧
      ∀ key, patch.lookup key = patchMember (base.lookup key) (target.lookup key) := by
  cases hcomparable with
  | whole hrecords => contradiction
  | members hbase htarget hdata hkept hbelow =>
    exact createMergePatch_object hbase htarget hdata hkept fun entry hmem other hother =>
      createMergePatch_total (hbelow entry hmem other hother)

end Patch

section Projection

variable {source runtime : List (JsString × JsValue)}

theorem projectSource_of_not_record {source runtime : JsValue}
    (hrecords : (source.isRecord && runtime.isRecord) = false) :
    projectSourceOntoRuntimeShape source runtime = source.structuredClone := by
  cases source <;> cases runtime <;> simp_all [projectSourceOntoRuntimeShape, isRecord]

theorem projectEntries_spec (runtime : List (JsString × JsValue))
    (hnodup : (keys source).Nodup) (htidy : areTidy source = true)
    (htotal : ∀ entry ∈ source, ∀ runtime,
      ∃ value, projectSourceOntoRuntimeShape entry.2 runtime = some value) :
    ∃ projected, projectEntries source runtime = some projected ∧
      (keys projected).Sublist (keys source) ∧
      ∀ key, projected.lookup key = (source.lookup key).bind fun sourceValue =>
        (runtime.lookup key).bind fun value =>
          projectSourceOntoRuntimeShape sourceValue value := by
  induction source with
  | nil => exact ⟨[], by simp [projectEntries], List.Sublist.refl _, by simp⟩
  | cons entry rest ih =>
    obtain ⟨first, value⟩ := entry
    obtain ⟨hfirst, hrest⟩ := List.nodup_cons.mp hnodup
    obtain ⟨hinherited, -, -, -, htidyRest⟩ := areTidy_cons.mp htidy
    obtain ⟨projected, hprojected, hsub, hlookup⟩ := ih hrest htidyRest
      fun entry hmem => htotal entry (List.mem_cons_of_mem _ hmem)
    have hcons : projectEntries ((first, value) :: rest) runtime =
        some (entryOf first ((runtime.lookup first).bind fun runtimeValue =>
          projectSourceOntoRuntimeShape value runtimeValue) ++ projected) := by
      rw [projectEntries]
      cases hruntime : runtime.lookup first with
      | none => simp [hprojected, hasKey, hruntime, hinherited, entryOf]
      | some runtimeValue =>
        obtain ⟨found, hfound⟩ := htotal (first, value) List.mem_cons_self runtimeValue
        simp [hprojected, hasKey, hruntime, entryOf, hfound, readKey_of_lookup hruntime]
    exact ⟨_, hcons, entryOf_spec (fun key sourceValue => (runtime.lookup key).bind fun value =>
      projectSourceOntoRuntimeShape sourceValue value) hfirst hsub hlookup⟩

theorem projectSource_total (source : JsValue) : IsPlain source → ∀ runtime,
      ∃ value, projectSourceOntoRuntimeShape source runtime = some value := by
  induction source using JsValue.induction with
  | object source ih =>
    intro hsource runtime
    cases runtime with
    | object runtime =>
      have hnodup := nodup_of_isTidy hsource.tidy
      obtain ⟨projected, hprojected, -⟩ :=
        projectEntries_spec runtime hnodup (areTidy_of_isTidy hsource.tidy) fun entry hmem =>
            ih entry hmem (hsource.lookup (lookup_of_mem hnodup hmem))
      exact ⟨.object projected, by simp [projectSourceOntoRuntimeShape, hprojected]⟩
    | _ =>
      rw [projectSource_of_not_record rfl, structuredClone, if_pos hsource.data]
      exact ⟨_, rfl⟩
  | _ =>
    intro hsource runtime
    rw [projectSource_of_not_record rfl, structuredClone, if_pos hsource.data]
    exact ⟨_, rfl⟩

theorem projectSource_spec (hsource : IsPlain (.object source))
    (runtime : List (JsString × JsValue)) :
    ∃ projected, projectSourceOntoRuntimeShape (.object source)
        (.object runtime) = some (.object projected) ∧
      ∀ key, projected.lookup key = (runtime.lookup key).bind fun value =>
        (source.lookup key).bind fun sourceValue =>
          projectSourceOntoRuntimeShape sourceValue value := by
  have hnodup := nodup_of_isTidy hsource.tidy
  obtain ⟨projected, hprojected, -, hlookup⟩ :=
    projectEntries_spec runtime hnodup (areTidy_of_isTidy hsource.tidy)
      fun entry hmem => projectSource_total entry.2 (hsource.lookup (lookup_of_mem hnodup hmem))
  exact ⟨projected, by simp [projectSourceOntoRuntimeShape, hprojected],
    fun key => (hlookup key).trans (Option.bind_comm _ _)⟩

end Projection

section Equal

variable {key : JsString} {base target : List (JsString × JsValue)}

theorem deepEqualEntries_iff : deepEqualEntries base target = true ↔
      ∀ entry ∈ base, ∃ other, target.lookup entry.1 = some other ∧
        deepEqual entry.2 other = true := by
  induction base with
  | nil => simp [deepEqualEntries]
  | cons entry rest ih =>
    obtain ⟨key, value⟩ := entry
    rw [deepEqualEntries, Bool.and_eq_true, ih, List.forall_mem_cons]
    cases target.lookup key <;> simp

/-- Whether the members for one key are the same before and after an edit. -/
def unedited : Option JsValue → Option JsValue → Bool
  | some value, some other => deepEqual value other
  | none, none => true
  | _, _ => false

theorem unedited_of_deepEqual (hbase : (keys base).Nodup)
    (hequal : deepEqual (.object base) (.object target) = true)
    (key : JsString) :
    unedited (base.lookup key) (target.lookup key) = true := by
  simp only [deepEqual, Bool.and_eq_true, decide_eq_true_eq] at hequal
  obtain ⟨hlength, hentries⟩ := hequal
  have hfound := deepEqualEntries_iff.mp hentries
  cases hlookup : base.lookup key with
  | some value =>
    obtain ⟨other, hother, hvalue⟩ := hfound (key, value) (mem_of_lookup hlookup)
    rw [hother]
    exact hvalue
  | none =>
    have hsub : keys base ⊆ keys target := by
      intro other hmem
      obtain ⟨value, hvalue⟩ := mem_keys_iff.mp hmem
      obtain ⟨found, hother, -⟩ := hfound (other, value) (mem_of_lookup hvalue)
      exact mem_keys_iff.mpr ⟨found, hother⟩
    have htarget : target.lookup key = none := by
      rw [lookup_eq_none] at hlookup ⊢
      intro hmem
      exact hlookup (mem_keys_of_length_eq hbase hlength hsub hmem)
    rw [htarget]
    rfl

theorem patchMember_of_unedited {before after : Option JsValue}
    (hequal : unedited before after = true)
    (hempty : ∀ value other, before = some value → after = some other →
      value.isRecord = true → other.isRecord = true →
        createMergePatch value other = some (.object [])) :
    patchMember before after = none := by
  cases before with
  | none => cases after <;> simp_all [unedited, patchMember]
  | some value =>
    cases after with
    | none => simp [unedited] at hequal
    | some other =>
      simp only [unedited] at hequal
      by_cases hrecords : (value.isRecord && other.isRecord) = true
      · have hboth := hrecords
        rw [Bool.and_eq_true] at hboth
        have hpatch := hempty value other rfl rfl hboth.1 hboth.2
        simp [patchMember, hrecords, hpatch, Option.filter, isEmptyRecord]
      · simp [patchMember, hrecords, hequal]

theorem createMergePatch_of_deepEqual {base target : JsValue}
    (hcomparable : Comparable base target)
    (hrecords : (base.isRecord && target.isRecord) = true)
    (hequal : deepEqual base target = true) :
    createMergePatch base target = some (.object []) := by
  induction hcomparable with
  | whole hnot =>
    rw [hnot] at hrecords
    contradiction
  | @members base target hbase htarget hdata hkept hbelow ih =>
    obtain ⟨patch, hpatch, -, hlookup⟩ :=
      createMergePatch_spec (.members hbase htarget hdata hkept hbelow)
    have hnone : ∀ key, patch.lookup key = none := by
      intro key
      have hmember := unedited_of_deepEqual hbase hequal key
      rw [hlookup]
      apply patchMember_of_unedited hmember
      intro value other hvalue hother hrecord hrecord'
      rw [hvalue, hother] at hmember
      exact ih (key, value) (mem_of_lookup hvalue) other hother
        (by simp [hrecord, hrecord']) hmember
    have hnil : patch = [] := by
      cases patch with
      | nil => rfl
      | cons entry rest =>
        have hfirst := hnone entry.1
        simp at hfirst
    rw [hpatch, hnil]

end Equal

end LittleBaby.Config
