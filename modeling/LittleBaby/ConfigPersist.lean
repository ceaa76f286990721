import LittleBaby.ConfigWritePrepare

/-!
# Config write-back

Untouched members of a config are written back as the source has them, and
edited ones as they are edited, at every depth.
-/

namespace LittleBaby.Config

open JsString JsValue JsValue

def persist (source runtime next : JsValue) : Option JsValue := do
  let patch ← createMergePatch runtime next
  let projectedSource ← projectSourceOntoRuntimeShape source runtime
  some (applyMergePatch projectedSource patch)

section Level

variable {key : JsString} {source runtime next persisted : List (JsString × JsValue)}

theorem lookup_of_blocked (hplain : IsPlain (.object source))
    (hblocked : isBlockedObjectKey key = true) :
    source.lookup key = none := by
  cases hlookup : source.lookup key with
  | none => rfl
  | some value =>
    have htidy := areTidy_of_isTidy hplain.tidy
    have hfree := (areTidy_lookup htidy hlookup).2.1
    rw [hblocked] at hfree
    exact absurd hfree (by simp)

section

variable (hsource : IsPlain (.object source)) (hruntime : IsPlain (.object runtime))
  (hnext : IsPlain (.object next))
include hsource hruntime hnext

theorem persist_spec :
    ∃ projected persisted, persist (.object source) (.object runtime) (.object next) =
          some (.object persisted) ∧
        (∀ key, projected.lookup key = (runtime.lookup key).bind fun value =>
            (source.lookup key).bind fun sourceValue =>
              projectSourceOntoRuntimeShape sourceValue value) ∧
        ∀ key, persisted.lookup key = match patchMember (runtime.lookup key) (next.lookup key) with
          | none => projected.lookup key
          | some value => patched (readKey key projected) value := by
  obtain ⟨patch, hpatch, hnodup, hlookup⟩ :=
    createMergePatch_spec (comparable_of_plain _ hruntime.tidy hnext)
  obtain ⟨projected, hprojected, hproject⟩ := projectSource_spec hsource runtime
  refine ⟨projected, applyEntries projected patch, ?_, hproject, ?_⟩
  · simp [persist, hpatch, hprojected, applyMergePatch, spread]
  · intro key
    rw [← hlookup]
    cases hmember : patch.lookup key with
    | none =>
      exact lookup_applyEntries_of_not_mem (Entries.lookup_eq_none.mp hmember)
    | some value =>
      have hblocked : isBlockedObjectKey key = false := by
        cases hblocked : isBlockedObjectKey key with
        | false => rfl
        | true =>
          rw [hlookup, lookup_of_blocked hruntime hblocked,
            lookup_of_blocked hnext hblocked] at hmember
          simp [patchMember] at hmember
      rw [lookup_applyEntries hnodup hblocked, hmember]

theorem persist_member (hpersist : persist (.object source) (.object runtime) (.object next) =
      some (.object persisted))
    {below belowRuntime belowNext : List (JsString × JsValue)}
    (hbelow : source.lookup key = some (.object below))
    (hbelowRuntime : runtime.lookup key = some (.object belowRuntime))
    (hbelowNext : next.lookup key = some (.object belowNext)) :
    ∃ belowPersisted, persisted.lookup key = some (.object belowPersisted) ∧
        persist (.object below) (.object belowRuntime) (.object belowNext) =
          some (.object belowPersisted) := by
  obtain ⟨projected, found, hfound, hproject, hlookup⟩ := persist_spec hsource hruntime hnext
  rw [hpersist, Option.some.injEq, object.injEq] at hfound
  subst hfound
  have hmember := hlookup key
  obtain ⟨patch, hpatch, -⟩ := createMergePatch_spec
    (comparable_of_plain _ (hruntime.lookup hbelowRuntime).tidy (hnext.lookup hbelowNext))
  obtain ⟨projectedBelow, hprojectedBelow, -⟩ :=
    projectSource_spec (hsource.lookup hbelow) belowRuntime
  have hprojected : projected.lookup key = some (.object projectedBelow) := by
    rw [hproject, hbelowRuntime, hbelow]
    exact hprojectedBelow
  have hread : readKey key projected = .object projectedBelow := readKey_of_lookup hprojected
  refine ⟨applyEntries projectedBelow patch, ?_, ?_⟩
  · rw [hmember, hbelowRuntime, hbelowNext]
    cases hempty : patch with
    | nil =>
      simp [patchMember, isRecord, hpatch, hempty, isEmptyRecord, Option.filter, hprojected]
    | cons entry rest =>
      rw [hempty] at hpatch
      simp [patchMember, isRecord, hpatch, isEmptyRecord, Option.filter,
        patched, isNull, hread, applyMergePatch, spread]
  · simp [persist, hpatch, hprojectedBelow, applyMergePatch, spread]

end

/-- What a member is kept as when the edit leaves it alone: nothing if the
source or the runtime config lacks it, an object if both hold objects, and
else what the source holds. -/
def Kept (source runtime persisted : Option JsValue) : Prop :=
  match source, runtime with
  | some (.object _), some (.object _) =>
    ∃ entries, persisted = some (.object entries)
  | some value, some _ => persisted = some value
  | _, _ => persisted = none

theorem persist_unedited (hsource : IsPlain (.object source))
    (hruntime : IsPlain (.object runtime)) (hnext : IsPlain (.object next))
    (hpersist : persist (.object source) (.object runtime) (.object next) =
      some (.object persisted))
    (hunedited : unedited (runtime.lookup key) (next.lookup key) = true) :
    Kept (source.lookup key) (runtime.lookup key) (persisted.lookup key) := by
  obtain ⟨projected, found, hfound, hproject, hlookup⟩ := persist_spec hsource hruntime hnext
  rw [hpersist, Option.some.injEq, object.injEq] at hfound
  subst hfound
  have hmember : patchMember (runtime.lookup key) (next.lookup key) = none := by
    apply patchMember_of_unedited hunedited
    intro value other hvalue hother hrecord hrecord'
    rw [hvalue, hother] at hunedited
    apply createMergePatch_of_deepEqual _ (by simp [hrecord, hrecord']) hunedited
    exact comparable_of_plain value (hruntime.lookup hvalue).tidy (hnext.lookup hother)
  rw [hlookup, hmember]
  rw [hproject]
  cases hsourceMember : source.lookup key with
  | none => cases runtime.lookup key <;> simp [Kept]
  | some value =>
    have hplain := hsource.lookup hsourceMember
    cases hruntimeMember : runtime.lookup key with
    | none => cases value <;> simp [Kept]
    | some runtimeValue =>
      simp only [Option.bind_some]
      by_cases hrecords : (value.isRecord && runtimeValue.isRecord) = true
      · cases value <;> cases runtimeValue <;> simp [isRecord] at hrecords
        obtain ⟨projectedBelow, hbelow, -⟩ := projectSource_spec hplain _
        exact ⟨projectedBelow, hbelow⟩
      · rw [projectSource_of_not_record (by simpa using hrecords),
          structuredClone, if_pos hplain.data]
        cases value <;> cases runtimeValue <;> simp_all [Kept, isRecord]

def Replaces (source runtime next : Option JsValue) : Prop :=
  ∀ value, next = some value → value.isRecord = true →
    ∀ before, runtime = some before → before.isRecord = false ∧
      ∀ sourceValue, source = some sourceValue → sourceValue.isRecord = false

theorem persist_edited (hsource : IsPlain (.object source))
    (hruntime : IsPlain (.object runtime)) (hnext : IsPlain (.object next))
    (hpersist : persist (.object source) (.object runtime) (.object next) =
      some (.object persisted))
    (hedited : unedited (runtime.lookup key) (next.lookup key) = false)
    (hreplaces : Replaces (source.lookup key) (runtime.lookup key) (next.lookup key)) :
    persisted.lookup key = next.lookup key := by
  obtain ⟨projected, found, hfound, hproject, hlookup⟩ := persist_spec hsource hruntime hnext
  rw [hpersist, Option.some.injEq, object.injEq] at hfound
  subst hfound
  rw [hlookup]
  cases hnextMember : next.lookup key with
  | none =>
    rw [hnextMember] at hedited
    cases hruntimeMember : runtime.lookup key with
    | none => simp [hruntimeMember, unedited] at hedited
    | some value => simp [patchMember, patched, isNull]
  | some value =>
    have hplain := hnext.lookup hnextMember
    have hfree := areTidy_lookup (areTidy_of_isTidy hnext.tidy) hnextMember
    have hmember : patchMember (runtime.lookup key) (some value) = some value := by
      rw [hnextMember] at hedited
      cases hruntimeMember : runtime.lookup key with
      | none => rfl
      | some before =>
        rw [hruntimeMember] at hedited
        have hunequal : deepEqual before value = false := hedited
        have hrecords : (before.isRecord && value.isRecord) = false := by
          rw [Bool.and_eq_false_iff, or_iff_not_imp_right]
          intro hrecord
          exact (hreplaces value hnextMember (by simpa using hrecord) before hruntimeMember).1
        simp [patchMember, hrecords, hunequal]
    rw [hmember]
    simp only [patched, hfree.2.2.1, Bool.false_eq_true, if_false]
    by_cases hrecord : value.isRecord = true
    · have hbase : (readKey key projected).isRecord = false := by
        have hreplaced := hreplaces value hnextMember hrecord
        rw [readKey, hproject]
        cases hruntimeMember : runtime.lookup key with
        | none => simp [hfree.1, isRecord]
        | some before =>
          obtain ⟨hbefore, hsourceMember⟩ := hreplaced before hruntimeMember
          cases hlookupSource : source.lookup key with
          | none => simp [hfree.1, isRecord]
          | some sourceValue =>
            have hdata := (hsource.lookup hlookupSource).data
            have hnot := hsourceMember sourceValue hlookupSource
            simp [projectSource_of_not_record, hnot, structuredClone, hdata]
      rw [if_pos hrecord, hbase]
      simp only [Bool.false_eq_true, if_false]
      rw [applyMergePatch_empty (clean_of_isTidy value hplain.tidy) fun _ => rfl]
    · rw [if_neg hrecord]

end Level

theorem persist_path {path : List JsString} :
    ∀ {source runtime next persisted below belowRuntime belowNext : List (JsString × JsValue)},
      IsPlain (.object source) → IsPlain (.object runtime) →
      IsPlain (.object next) →
      persist (.object source) (.object runtime) (.object next) = some (.object persisted) →
      (object source).get? path = some (.object below) →
      (object runtime).get? path = some (.object belowRuntime) →
      (object next).get? path = some (.object belowNext) →
      ∃ belowPersisted, (object persisted).get? path = some (.object belowPersisted) ∧
          IsPlain (.object below) ∧ IsPlain (.object belowRuntime) ∧
          IsPlain (.object belowNext) ∧
          persist (.object below) (.object belowRuntime)
            (.object belowNext) = some (.object belowPersisted) := by
  induction path with
  | nil =>
    intro source runtime next persisted below belowRuntime belowNext
      hsource hruntime hnext hpersist hbelow hbelowRuntime hbelowNext
    simp only [get?, Option.some.injEq, object.injEq] at hbelow hbelowRuntime hbelowNext
    subst hbelow hbelowRuntime hbelowNext
    exact ⟨persisted, rfl, hsource, hruntime, hnext, hpersist⟩
  | cons key path ih =>
    intro source runtime next persisted below belowRuntime belowNext
      hsource hruntime hnext hpersist hbelow hbelowRuntime hbelowNext
    obtain ⟨member, hmember, hget⟩ := member_of_get?_object hbelow
    obtain ⟨memberRuntime, hmemberRuntime, hgetRuntime⟩ := member_of_get?_object hbelowRuntime
    obtain ⟨memberNext, hmemberNext, hgetNext⟩ := member_of_get?_object hbelowNext
    obtain ⟨memberPersisted, hmemberPersisted, hpersistMember⟩ :=
      persist_member hsource hruntime hnext hpersist hmember hmemberRuntime hmemberNext
    obtain ⟨belowPersisted, hgetPersisted, hplain⟩ :=
      ih (hsource.lookup hmember) (hruntime.lookup hmemberRuntime)
        (hnext.lookup hmemberNext) hpersistMember hget hgetRuntime hgetNext
    refine ⟨belowPersisted, ?_, hplain⟩
    rw [get?_object_cons, hmemberPersisted]
    exact hgetPersisted

theorem lookup_preserveRootSchemaUri (rootAuthored next : JsValue)
    (persisted : List (JsString × JsValue)) :
    ∃ entries, preserveRootSchemaUri rootAuthored next (.object persisted) = .object entries ∧
        (hasOwnRootSchemaKey next = true → entries = persisted) ∧
        ∀ key, key ≠ js "$schema" → entries.lookup key = persisted.lookup key := by
  unfold preserveRootSchemaUri
  by_cases hown : hasOwnRootSchemaKey next = true
  · rw [if_pos hown]
    exact ⟨persisted, rfl, fun _ => rfl, fun _ _ => rfl⟩
  · rw [if_neg hown]
    cases hschema : readRootSchemaUri rootAuthored with
    | none => exact ⟨persisted, rfl, fun _ => rfl, fun _ _ => rfl⟩
    | some uri =>
      exact ⟨_, rfl, fun hsome => absurd hsome hown, fun key hkey => Entries.lookup_set_of_ne hkey⟩

theorem resolvePersistCandidateForWrite_keeps_intent
    (source runtime next : PlainConfig) (rootAuthored : Option JsValue) :
    ∃ candidate, resolvePersistCandidateForWrite runtime.value source.value next.value
          rootAuthored = some (.object candidate) ∧
        ∀ (path : List JsString) (key : JsString)
          (inSource inRuntime inNext : List (JsString × JsValue)),
          source.value.get? path = some (.object inSource) →
          runtime.value.get? path = some (.object inRuntime) →
          next.value.get? path = some (.object inNext) →
          path ++ [key] ≠ [js "$schema"] → ∃ inCandidate,
              (object candidate).get? path = some (.object inCandidate) ∧
                (unedited (inRuntime.lookup key) (inNext.lookup key) = true →
                  Kept (inSource.lookup key) (inRuntime.lookup key) (inCandidate.lookup key)) ∧
                (unedited (inRuntime.lookup key) (inNext.lookup key) = false →
                  Replaces (inSource.lookup key) (inRuntime.lookup key) (inNext.lookup key) →
                  inCandidate.lookup key = inNext.lookup key) := by
  obtain ⟨projected, persisted, hpersist, -⟩ := persist_spec source.plain runtime.plain next.plain
  obtain ⟨candidate, hcandidate, hown, hother⟩ :=
    lookup_preserveRootSchemaUri (rootAuthored.getD source.value) next.value persisted
  refine ⟨candidate, ?_, ?_⟩
  · have hboth := hpersist
    simp only [persist, Option.bind_eq_bind, Option.bind_eq_some_iff, Option.some.injEq] at hboth
    obtain ⟨patch, hpatch, projected, hprojected, hmerged⟩ := hboth
    simp only [resolvePersistCandidateForWrite, PlainConfig.value, hpatch,
      hprojected, hmerged, Option.bind_eq_bind, Option.bind_some]
    exact congrArg some hcandidate
  · intro path key inSource inRuntime inNext hsource hruntime hnext hschema
    obtain ⟨inPersisted, hget, hplainSource, hplainRuntime, hplainNext,
      hpersistBelow⟩ := persist_path source.plain runtime.plain next.plain
        hpersist hsource hruntime hnext
    have hunedited := @persist_unedited key _ _ _ _ hplainSource hplainRuntime
      hplainNext hpersistBelow
    have hedited := @persist_edited key _ _ _ _ hplainSource hplainRuntime hplainNext hpersistBelow
    cases path with
    | nil =>
      have hkey : key ≠ js "$schema" := fun hkey => hschema (by simp [hkey])
      rw [get?, Option.some.injEq, object.injEq] at hget
      subst hget
      refine ⟨candidate, rfl, ?_⟩
      rw [hother key hkey]
      exact ⟨hunedited, hedited⟩
    | cons first rest =>
      have hfirst : candidate.lookup first = persisted.lookup first := by
        by_cases hroot : first = js "$schema"
        · obtain ⟨member, hmember, -⟩ := member_of_get?_object hnext
          have hownNext : hasOwnRootSchemaKey next.value = true := by
            rw [hroot] at hmember
            simp [hasOwnRootSchemaKey, PlainConfig.value, hmember]
          rw [hown hownNext]
        · exact hother first hroot
      refine ⟨inPersisted, ?_, hunedited, hedited⟩
      rw [get?_object_cons, hfirst, ← get?_object_cons]
      exact hget

def sectionConfig (section_ : JsString) (members : List (JsString × JsValue)) : JsValue :=
  .object [(section_, .object members)]

def gateway (members : List (JsString × JsValue))
    (hplain : IsPlain (sectionConfig (js "gateway") members)) : PlainConfig :=
  ⟨[(js "gateway", .object members)], hplain⟩

theorem resolvePersistCandidateForWrite_keeps_intent_gateway :
    ∃ source runtime next : PlainConfig, ∃ candidate inCandidate,
      resolvePersistCandidateForWrite runtime.value source.value next.value
          none = some (.object candidate) ∧
        (object candidate).get? [js "gateway"] = some (.object inCandidate) ∧
        inCandidate.lookup (js "bind") = some (.string (js "lan")) := by
  let source := gateway [(js "port", .bool true)] ⟨by decide, by decide⟩
  let runtime := gateway [(js "port", .bool true), (js "bind", .string (js "loopback"))]
    ⟨by decide, by decide⟩
  let next := gateway [(js "port", .bool true), (js "bind", .string (js "lan"))]
    ⟨by decide, by decide⟩
  obtain ⟨candidate, hcandidate, hkeeps⟩ :=
    resolvePersistCandidateForWrite_keeps_intent source runtime next none
  obtain ⟨inCandidate, hget, -, hedited⟩ :=
    hkeeps [js "gateway"] (js "bind") _ _ _ rfl rfl rfl (by decide)
  refine ⟨source, runtime, next, candidate, inCandidate, hcandidate, hget, ?_⟩
  rw [hedited (by decide)]
  · rfl
  · intro value hvalue hrecord
    rw [← Option.some.inj hvalue] at hrecord
    simp [isRecord] at hrecord

/-- An untouched object loses the members that the runtime config lacks, and
a member named like an inherited property stays although neither the runtime
config nor the edited one has it. -/
theorem untouched_not_as_in_source : (∃ candidate kept, resolvePersistCandidateForWrite
          (sectionConfig (js "talk") [(js "voice", .bool true)])
          (sectionConfig (js "talk") [(js "voice", .bool true), (js "legacy", .bool true)])
          (sectionConfig (js "talk") [(js "voice", .bool true)]) none =
        some candidate ∧
      candidate.get? [js "talk"] = some kept ∧
      deepEqual kept (.object [(js "voice", .bool true), (js "legacy", .bool true)]) = false) ∧
    ∃ candidate, resolvePersistCandidateForWrite (sectionConfig (js "env") [])
          (sectionConfig (js "env") [(js "toString", .bool true)])
          (sectionConfig (js "env") []) none = some candidate ∧
        candidate.get? [js "env", js "toString"] = some (.bool true) := by
  exact ⟨⟨_, _, rfl, rfl, rfl⟩, ⟨_, rfl, rfl⟩⟩

end LittleBaby.Config
