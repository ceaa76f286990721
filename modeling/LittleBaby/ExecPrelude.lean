import LittleBaby.ExecVerdict

/-!
# Parts that show a skill

The pass over the parts looks for the execution of a skill through trusted
executions and other preludes.  It does not look at the operator after a trusted
execution, so it may pass a `;` or `||` there.
-/

namespace LittleBaby.Exec

open JsString

variable (host : PolicyHost) (context : ExecAllowlistContext)

structure PartSound (part : ChainEvaluation) : Prop where
  evaluated : part.evaluation = evaluateExecAllowlist host context part.analysis
  chains : ∀ chains, part.analysis.chains = some chains → part.analysis.segments = chains.flatten
  resolved : ∀ segment ∈ part.analysis.segments, ∃ argv, segment.resolution =
    resolveCommandResolutionFromArgv host.toHost argv context.cwd

theorem evaluateChainParts_sound {chainParts : List ShellChainPart} {parts : List ChainEvaluation}
    (hparts : evaluateChainParts host context chainParts = some parts) :
    ∀ part ∈ parts, PartSound host context part := by
  induction chainParts generalizing parts with
  | nil =>
    cases hparts
    simp
  | cons first rest ih =>
    rw [evaluateChainParts] at hparts
    split at hparts
    next => simp at hparts
    next analysis hanalyze =>
        obtain ⟨others, hothers, rfl⟩ := Option.map_eq_some_iff.mp hparts
        obtain ⟨hchains, hresolved⟩ := analyzeShellCommand_spec host hanalyze
        intro part hpart
        rcases List.mem_cons.mp hpart with rfl | hmem
        · exact ⟨rfl, hchains, hresolved⟩
        · exact ih hothers part hmem

variable (part : ChainEvaluation)

def effectiveSatisfiedBy (isPrelude : Bool) : List (Option ExecSegmentSatisfiedBy) :=
  if isPrelude then part.analysis.segments.map fun _ => some .skillPrelude
  else part.evaluation.segmentSatisfiedBy

def effectiveEntries (isPrelude : Bool) : List (Option ExecAllowlistEntry) :=
  if isPrelude then part.analysis.segments.map fun _ => none
  else part.evaluation.segmentAllowlistEntries

section Parts

variable {host context} {part : ChainEvaluation}

theorem PartSound.justified (hsound : PartSound host context part)
    (hsatisfied : part.evaluation.allowlistSatisfied = true) :
    part.analysis.segments ≠ [] ∧
      Justified part.analysis.segments part.evaluation.segmentAllowlistEntries
        part.evaluation.segmentSatisfiedBy ∧
      some .skillPrelude ∉ part.evaluation.segmentSatisfiedBy := by
  rw [hsound.evaluated] at hsatisfied ⊢
  exact evaluateExecAllowlist_justified host context hsound.chains hsatisfied

theorem isPreludeOnly_spec (hprelude : part.isPreludeOnly host context = true) :
    part.evaluation.allowlistSatisfied = false ∧ part.analysis.segments ≠ [] ∧
      ∀ segment ∈ part.analysis.segments, isSkillPreludeSegment host context segment = true := by
  unfold ChainEvaluation.isPreludeOnly isSkillPreludeOnlyEvaluation at hprelude
  simp only [Bool.and_eq_true, Bool.not_eq_true', List.all_eq_true,
    List.isEmpty_eq_false_iff] at hprelude
  exact ⟨hprelude.1, hprelude.2.1, hprelude.2.2⟩

theorem PartSound.effective (hsound : PartSound host context part) {isPrelude : Bool}
    (haccepted : part.evaluation.allowlistSatisfied = true ∨ isPrelude = true)
    (hprelude : isPrelude = true → part.isPreludeOnly host context = true) :
    Justified part.analysis.segments (effectiveEntries part isPrelude)
      (effectiveSatisfiedBy part isPrelude) := by
  cases isPrelude with
  | false =>
    have hsatisfied := haccepted.resolve_right (by simp)
    exact (hsound.justified hsatisfied).2.1
  | true =>
    obtain ⟨-, -, hsegments⟩ := isPreludeOnly_spec (hprelude rfl)
    refine ⟨by simp [effectiveEntries], by simp [effectiveSatisfiedBy], ?_,
      by simp [effectiveSatisfiedBy]⟩
    intro segment hsegment
    obtain ⟨argv, hresolution⟩ := hsound.resolved segment hsegment
    exact isSkillPreludeSegment_unblocked host context hresolution (hsegments segment hsegment)

end Parts

/-! ## The pass over the parts -/

variable (rest : List ChainEvaluation)

def isAllowedPrelude : Bool :=
  (part.trustedSkillIds host).isEmpty && part.isPreludeOnly host context &&
    part.opToNext == some .and &&
    part.isServedBy host context (preludePass host context rest).2

theorem preludePass_cons : preludePass host context (part :: rest) =
      (isAllowedPrelude host context part rest :: (preludePass host context rest).1,
        if part.trustedSkillIds host ≠ [] then
          part.trustedSkillIds host ++ (preludePass host context rest).2
        else if isAllowedPrelude host context part rest then
          (preludePass host context rest).2
        else []) := by
  simp only [preludePass, isAllowedPrelude]
  by_cases htrusted : part.trustedSkillIds host = []
  · simp only [htrusted, ne_eq, not_true_eq_false, if_false, List.isEmpty_nil, Bool.true_and]
    split_ifs with hallowed hboth hboth
    · simp [hallowed.1, hallowed.2.1, hallowed.2.2]
    · exact absurd (by simp [hallowed.1, hallowed.2.1, hallowed.2.2]) hboth
    · simp at hboth
      exact absurd ⟨hboth.1.1, hboth.1.2, hboth.2⟩ hallowed
    · rw [(Bool.not_eq_true _).mp hboth]
  · simp [htrusted]

def Reaches : Prop :=
  ∃ run other after, rest = run ++ other :: after ∧
    (∀ between ∈ run, between.trustedSkillIds host ≠ [] ∨
      between.isPreludeOnly host context = true) ∧
    part.isServedBy host context (other.trustedSkillIds host) = true

def Accepted (parts : List ChainEvaluation) : Prop :=
  ∀ before part rest, parts = before ++ part :: rest → part.evaluation.allowlistSatisfied = true ∨
      part.isPreludeOnly host context = true ∧ part.opToNext = some .and ∧
        Reaches host context part rest

section Pass

variable {host context} {part : ChainEvaluation} {rest parts : List ChainEvaluation}

theorem isServedBy_iff {ids : List JsString} : part.isServedBy host context ids = true ↔
      (part.preludeSkillIds host context = [] ∧ ∃ id, id ∈ ids) ∨
        ∃ id ∈ part.preludeSkillIds host context, id ∈ ids := by
  unfold ChainEvaluation.isServedBy
  cases hids : part.preludeSkillIds host context with
  | nil =>
    cases ids with
    | nil => simp
    | cons id ids => simp
  | cons id others => simp

theorem trustedSkillIds_eq_nil (hprelude : part.isPreludeOnly host context = true) :
    part.trustedSkillIds host = [] := by
  unfold ChainEvaluation.trustedSkillIds resolveTrustedSkillExecutionIds
  simp [(isPreludeOnly_spec hprelude).1]

def PassAccepts (host : PolicyHost) (context : ExecAllowlistContext)
    (parts : List ChainEvaluation) : Prop :=
  ∀ entry ∈ parts.zip (preludePass host context parts).1,
    entry.1.evaluation.allowlistSatisfied = true ∨ entry.2 = true

theorem passAccepts_cons : PassAccepts host context (part :: rest) ↔
      (part.evaluation.allowlistSatisfied = true ∨ isAllowedPrelude host context part rest = true) ∧
        PassAccepts host context rest := by
  unfold PassAccepts
  rw [preludePass_cons]
  simp

section

variable (haccepts : PassAccepts host context rest)
include haccepts

theorem mem_reachable {id : JsString} :
    id ∈ (preludePass host context rest).2 ↔ ∃ run other after, rest = run ++ other :: after ∧
        (∀ between ∈ run, between.trustedSkillIds host ≠ [] ∨
          between.isPreludeOnly host context = true) ∧
        id ∈ other.trustedSkillIds host := by
  induction rest with
  | nil => simp [preludePass]
  | cons first rest ih =>
    obtain ⟨hfirst, hrest⟩ := passAccepts_cons.mp haccepts
    have ih := ih hrest
    rw [preludePass_cons]
    constructor
    · intro hid
      have hlater : (first.trustedSkillIds host ≠ [] ∨ first.isPreludeOnly host context = true) →
          id ∈ (preludePass host context rest).2 →
          ∃ run other after, first :: rest = run ++ other :: after ∧
            (∀ between ∈ run, between.trustedSkillIds host ≠ [] ∨
              between.isPreludeOnly host context = true) ∧
            id ∈ other.trustedSkillIds host := by
        intro hkind hmem
        obtain ⟨run, other, after, rfl, hrun, hother⟩ := ih.mp hmem
        refine ⟨first :: run, other, after, rfl, ?_, hother⟩
        intro between hbetween
        rcases List.mem_cons.mp hbetween with rfl | hmem
        · exact hkind
        · exact hrun between hmem
      split_ifs at hid with htrusted hallowed
      · rcases List.mem_append.mp hid with hown | hmem
        · exact ⟨[], first, rest, rfl, by simp, hown⟩
        · exact hlater (.inl htrusted) hmem
      · apply hlater (.inr _) hid
        simp only [isAllowedPrelude, Bool.and_eq_true] at hallowed
        exact hallowed.1.1.2
      · simp at hid
    · rintro ⟨run, other, after, hsplit, hrun, hother⟩
      cases run with
      | nil =>
        cases hsplit
        have htrusted : first.trustedSkillIds host ≠ [] := List.ne_nil_of_mem hother
        rw [if_pos htrusted]
        exact List.mem_append_left _ hother
      | cons head run =>
        cases hsplit
        have hmem : id ∈ (preludePass host context (run ++ other :: after)).2 := by
          apply ih.mpr
          exact ⟨run, other, after, rfl, fun between hbetween =>
              hrun between (List.mem_cons_of_mem _ hbetween), hother⟩
        split_ifs with htrusted hallowed
        · exact List.mem_append_right _ hmem
        · exact hmem
        · rcases hrun first List.mem_cons_self with hnonempty | hprelude
          · exact absurd hnonempty htrusted
          · have hunsatisfied := (isPreludeOnly_spec hprelude).1
            rcases hfirst with hsatisfied | hflag
            · rw [hunsatisfied] at hsatisfied
              exact absurd hsatisfied (by simp)
            · exact absurd hflag hallowed

theorem isServedBy_reachable :
    part.isServedBy host context (preludePass host context rest).2 = true ↔
      Reaches host context part rest := by
  rw [isServedBy_iff]
  constructor
  · rintro (⟨hnil, id, hid⟩ | ⟨id, hprelude, hid⟩)
    · obtain ⟨run, other, after, hsplit, hrun, hother⟩ := (mem_reachable haccepts).mp hid
      exact ⟨run, other, after, hsplit, hrun, isServedBy_iff.mpr (.inl ⟨hnil, id, hother⟩)⟩
    · obtain ⟨run, other, after, hsplit, hrun, hother⟩ := (mem_reachable haccepts).mp hid
      exact ⟨run, other, after, hsplit, hrun, isServedBy_iff.mpr (.inr ⟨id, hprelude, hother⟩)⟩
  · rintro ⟨run, other, after, hsplit, hrun, hserved⟩
    rcases isServedBy_iff.mp hserved with ⟨hnil, id, hother⟩ | ⟨id, hprelude, hother⟩
    · exact .inl ⟨hnil, id, (mem_reachable haccepts).mpr ⟨run, other, after, hsplit, hrun, hother⟩⟩
    · exact .inr ⟨id, hprelude,
        (mem_reachable haccepts).mpr ⟨run, other, after, hsplit, hrun, hother⟩⟩

theorem isAllowedPrelude_iff : isAllowedPrelude host context part rest = true ↔
      part.isPreludeOnly host context = true ∧ part.opToNext = some .and ∧
        Reaches host context part rest := by
  unfold isAllowedPrelude
  rw [← isServedBy_reachable haccepts]
  constructor
  · intro hallowed
    simp only [Bool.and_eq_true, beq_iff_eq] at hallowed
    exact ⟨hallowed.1.1.2, hallowed.1.2, hallowed.2⟩
  · rintro ⟨hprelude, hop, hserved⟩
    simp [trustedSkillIds_eq_nil hprelude, hprelude, hop, hserved]

end

theorem accepted_cons : Accepted host context (part :: rest) ↔
      (part.evaluation.allowlistSatisfied = true ∨
        part.isPreludeOnly host context = true ∧ part.opToNext = some .and ∧
          Reaches host context part rest) ∧ Accepted host context rest := by
  constructor
  · intro haccepted
    refine ⟨haccepted [] part rest rfl, ?_⟩
    rintro before other after rfl
    exact haccepted (part :: before) other after rfl
  · rintro ⟨hpart, hrest⟩ before other after hsplit
    cases before with
    | nil =>
      cases hsplit
      exact hpart
    | cons head before =>
      cases hsplit
      exact hrest before other after rfl

theorem passAccepts_iff : PassAccepts host context parts ↔ Accepted host context parts := by
  induction parts with
  | nil => simp [PassAccepts, Accepted]
  | cons part rest ih =>
    rw [passAccepts_cons, accepted_cons, ih]
    constructor
    · rintro ⟨hpart, hrest⟩
      rw [isAllowedPrelude_iff (ih.mpr hrest)] at hpart
      exact ⟨hpart, hrest⟩
    · rintro ⟨hpart, hrest⟩
      rw [isAllowedPrelude_iff (ih.mpr hrest)]
      exact ⟨hpart, hrest⟩

theorem preludePass_split (before : List ChainEvaluation) : ∃ flags, flags.length = before.length ∧
      (preludePass host context (before ++ part :: rest)).1 =
        flags ++ isAllowedPrelude host context part rest :: (preludePass host context rest).1 := by
  induction before with
  | nil => exact ⟨[], rfl, by simp [preludePass_cons]⟩
  | cons first before ih =>
    obtain ⟨flags, hlength, hflags⟩ := ih
    refine ⟨isAllowedPrelude host context first (before ++ part :: rest) ::
      flags, by simp [hlength], ?_⟩
    rw [List.cons_append, preludePass_cons, hflags]
    rfl

end Pass

/-! ## The result -/

section Collect

variable {host context}

def collected (done : ExecAllowlistAnalysis)
    (marked : List (ChainEvaluation × Bool)) : ExecAllowlistAnalysis where
  analysisOk := done.analysisOk
  allowlistSatisfied := true
  allowlistMatches := done.allowlistMatches ++
    marked.flatMap fun entry => entry.1.evaluation.allowlistMatches
  segments := done.segments ++ marked.flatMap fun entry => entry.1.analysis.segments
  segmentAllowlistEntries := done.segmentAllowlistEntries ++
    marked.flatMap fun entry => effectiveEntries entry.1 entry.2
  segmentSatisfiedBy := done.segmentSatisfiedBy ++
    marked.flatMap fun entry => effectiveSatisfiedBy entry.1 entry.2

theorem collectParts_eq (done : ExecAllowlistAnalysis) (marked : List (ChainEvaluation × Bool)) :
    (collectParts done marked).allowlistSatisfied = true ∧
        (∀ entry ∈ marked, entry.1.evaluation.allowlistSatisfied = true ∨
          entry.2 = true) ∧ collectParts done marked = collected done marked ∨
      (collectParts done marked).allowlistSatisfied = false ∧
        ∃ entry ∈ marked, entry.1.evaluation.allowlistSatisfied = false ∧ entry.2 = false := by
  induction marked generalizing done with
  | nil =>
    left
    exact ⟨rfl, by simp, by simp [collectParts, collected]⟩
  | cons entry rest ih =>
    obtain ⟨part, isPrelude⟩ := entry
    simp only [collectParts]
    by_cases hrejected : (!part.evaluation.allowlistSatisfied && !isPrelude) = true
    · right
      rw [if_pos hrejected]
      simp only [Bool.and_eq_true, Bool.not_eq_true'] at hrejected
      exact ⟨rfl, (part, isPrelude), List.mem_cons_self, hrejected.1, hrejected.2⟩
    · rw [if_neg hrejected]
      have hpart : part.evaluation.allowlistSatisfied = true ∨ isPrelude = true := by
        simp only [Bool.and_eq_true, Bool.not_eq_true', not_and_or, Bool.not_eq_false] at hrejected
        exact hrejected
      rcases ih _ with ⟨hsatisfied, hrest, hcollected⟩ | ⟨hunsatisfied, other, hmem, hother⟩
      · left
        refine ⟨hsatisfied, ?_, ?_⟩
        · intro other hother
          rcases List.mem_cons.mp hother with rfl | hmem
          · exact hpart
          · exact hrest other hmem
        · rw [hcollected]
          simp [collected, effectiveEntries, effectiveSatisfiedBy]
      · right
        exact ⟨hunsatisfied, other, List.mem_cons_of_mem _ hmem, hother⟩

def chainOf (host : PolicyHost) (context : ExecAllowlistContext)
    (command : JsString) : Option (List ChainEvaluation) :=
  if hasShellLineContinuation command then none
  else
    (chainPartsOf host context command).bind (evaluateChainParts host context)

def reasonsAt (verdict : ExecAllowlistAnalysis) (before : List ChainEvaluation)
    (part : ChainEvaluation) : List (Option ExecSegmentSatisfiedBy) :=
  (verdict.segmentSatisfiedBy.drop
    (before.flatMap fun other => other.analysis.segments).length).take part.analysis.segments.length

/-- A later part executes the skill that the part shows, or some skill where it
shows none, with only `&&` up to it. -/
def ServedTogether (host : PolicyHost) (context : ExecAllowlistContext)
    (part : ChainEvaluation) (rest : List ChainEvaluation) : Prop :=
  ∃ list other after, rest = list ++ other :: after ∧
    (∀ between ∈ part :: list, between.opToNext = some .and) ∧
    part.isServedBy host context (other.trustedSkillIds host) = true

structure VerdictJustified (host : PolicyHost) (context : ExecAllowlistContext)
    (command : JsString) (verdict : ExecAllowlistAnalysis) : Prop where
  segments : Justified verdict.segments verdict.segmentAllowlistEntries verdict.segmentSatisfiedBy
  preludes : ∀ parts, chainOf host context command = some parts →
    ∀ before part rest, parts = before ++ part :: rest →
      (∀ reason ∈ reasonsAt verdict before part, reason = some .skillPrelude) →
      ServedTogether host context part rest

/-- A part shows a skill, and its `&&` list ends in a trusted execution without
having executed the skill; yet all parts are accepted. -/
def SkillBridge (host : PolicyHost) (context : ExecAllowlistContext)
    (parts : List ChainEvaluation) : Prop :=
  Accepted host context parts ∧
    ∃ before part list joint after, parts = before ++ part :: (list ++ joint :: after) ∧
      part.isPreludeOnly host context = true ∧
      (∀ between ∈ part :: list, between.opToNext = some .and) ∧
      joint.opToNext ≠ some .and ∧ joint.trustedSkillIds host ≠ [] ∧
      ∀ between ∈ list ++ [joint],
        part.isServedBy host context (between.trustedSkillIds host) = false

theorem flatMap_length_eq {marked : List (ChainEvaluation × Bool)}
    (hmarked : ∀ entry ∈ marked, (effectiveSatisfiedBy entry.1 entry.2).length =
      entry.1.analysis.segments.length) :
    (marked.flatMap fun entry => effectiveSatisfiedBy entry.1 entry.2).length =
      ((marked.map Prod.fst).flatMap fun part =>
        part.analysis.segments).length := by
  induction marked with
  | nil => rfl
  | cons entry rest ih =>
    have hrest := ih fun other hother => hmarked other (List.mem_cons_of_mem _ hother)
    simp only [List.flatMap_cons, List.map_cons, List.length_append]
    rw [hmarked entry List.mem_cons_self, hrest]

theorem justified_flatMap {marked : List (ChainEvaluation × Bool)}
    (hmarked : ∀ entry ∈ marked, Justified entry.1.analysis.segments
      (effectiveEntries entry.1 entry.2) (effectiveSatisfiedBy entry.1 entry.2)) :
    Justified (marked.flatMap fun entry => entry.1.analysis.segments)
      (marked.flatMap fun entry => effectiveEntries entry.1 entry.2)
      (marked.flatMap fun entry => effectiveSatisfiedBy entry.1 entry.2) := by
  induction marked with
  | nil => exact Justified.nil
  | cons entry rest ih =>
    exact (hmarked entry List.mem_cons_self).append
      (ih fun other hother => hmarked other (List.mem_cons_of_mem _ hother))

theorem allowed_isPreludeOnly {part : ChainEvaluation} {rest : List ChainEvaluation}
    (hallowed : isAllowedPrelude host context part rest = true) :
    part.isPreludeOnly host context = true := by
  simp only [isAllowedPrelude, Bool.and_eq_true] at hallowed
  exact hallowed.1.1.2

theorem marked_isPreludeOnly {parts : List ChainEvaluation} {entry : ChainEvaluation × Bool}
    (hentry : entry ∈ parts.zip (preludePass host context parts).1)
    (hmarked : entry.2 = true) : entry.1.isPreludeOnly host context = true := by
  induction parts with
  | nil => simp at hentry
  | cons part rest ih =>
    rw [preludePass_cons] at hentry
    rcases List.mem_cons.mp hentry with rfl | hrest
    · exact allowed_isPreludeOnly hmarked
    · exact ih hrest

end Collect

/-! ## The verdict -/

section Verdict

variable {host context} {parts : List ChainEvaluation}

def chainVerdict (host : PolicyHost) (context : ExecAllowlistContext)
    (parts : List ChainEvaluation) : ExecAllowlistAnalysis :=
  collectParts ⟨true, false, [], [], [], []⟩ (parts.zip (preludePass host context parts).1)

theorem chainVerdict_satisfied_iff : (chainVerdict host context parts).allowlistSatisfied = true ↔
      Accepted host context parts := by
  rw [← passAccepts_iff]
  rcases collectParts_eq ⟨true, false, [], [], [], []⟩
      (parts.zip (preludePass host context parts).1) with
    ⟨hsatisfied, haccepted, -⟩ | ⟨hunsatisfied, entry, hmem, hpart, hflag⟩
  · exact ⟨fun _ => haccepted, fun _ => hsatisfied⟩
  · constructor
    · intro hsatisfied
      unfold chainVerdict at hsatisfied
      rw [hunsatisfied] at hsatisfied
      exact absurd hsatisfied (by simp)
    · intro haccepts
      rcases haccepts entry hmem with hsatisfied | hmarked
      · rw [hpart] at hsatisfied
        exact absurd hsatisfied (by simp)
      · rw [hflag] at hmarked
        exact absurd hmarked (by simp)

theorem chainVerdict_eq (haccepted : Accepted host context parts) :
    chainVerdict host context parts = collected ⟨true, false, [], [], [], []⟩
      (parts.zip (preludePass host context parts).1) := by
  rcases collectParts_eq ⟨true, false, [], [], [], []⟩
      (parts.zip (preludePass host context parts).1) with
    ⟨-, -, hcollected⟩ | ⟨hunsatisfied, -⟩
  · exact hcollected
  · have hsatisfied := chainVerdict_satisfied_iff.mpr haccepted
    unfold chainVerdict at hsatisfied
    rw [hunsatisfied] at hsatisfied
    exact absurd hsatisfied (by simp)

section

variable (hsound : ∀ part ∈ parts, PartSound host context part)
  (haccepted : Accepted host context parts)
include hsound haccepted

theorem marked_justified : ∀ entry ∈ parts.zip (preludePass host context parts).1,
      Justified entry.1.analysis.segments (effectiveEntries entry.1 entry.2)
        (effectiveSatisfiedBy entry.1 entry.2) := by
  intro entry hentry
  have haccepts := passAccepts_iff.mpr haccepted entry hentry
  exact (hsound entry.1 (List.of_mem_zip hentry).1).effective haccepts (marked_isPreludeOnly hentry)

theorem chainVerdict_justified : Justified (chainVerdict host context parts).segments
      (chainVerdict host context parts).segmentAllowlistEntries
      (chainVerdict host context parts).segmentSatisfiedBy := by
  rw [chainVerdict_eq haccepted]
  exact justified_flatMap (marked_justified hsound haccepted)

end

section

variable {before rest : List ChainEvaluation} {part : ChainEvaluation} (hsound : ∀ other ∈ before
  ++ part :: rest, PartSound host context other) (haccepted : Accepted host context (before ++
  part :: rest))

include hsound haccepted

theorem reasonsAt_chainVerdict :
    reasonsAt (chainVerdict host context (before ++ part :: rest)) before part =
      effectiveSatisfiedBy part (isAllowedPrelude host context part rest) := by
  have hjustified := marked_justified hsound haccepted
  obtain ⟨flags, hlength, hflags⟩ := @preludePass_split host context part rest before
  rw [chainVerdict_eq haccepted]
  rw [hflags, List.zip_append hlength.symm, List.zip_cons_cons] at hjustified ⊢
  have hbefore : ((before.zip flags).flatMap fun entry =>
      effectiveSatisfiedBy entry.1 entry.2).length =
      (before.flatMap fun other => other.analysis.segments).length := by
    rw [flatMap_length_eq fun entry hentry =>
      (hjustified entry (List.mem_append_left _ hentry)).reasons]
    rw [List.map_fst_zip hlength.ge]
  have hpart := (hjustified (part, isAllowedPrelude host context part rest) (by simp)).reasons
  unfold reasonsAt collected
  simp only [List.nil_append, List.flatMap_append, List.flatMap_cons]
  rw [← hbefore, List.drop_left, ← hpart, List.take_left]

theorem isAllowedPrelude_of_marked (hmarked : ∀ reason ∈ reasonsAt
      (chainVerdict host context (before ++ part :: rest)) before part,
      reason = some .skillPrelude) :
    isAllowedPrelude host context part rest = true := by
  rw [reasonsAt_chainVerdict hsound haccepted] at hmarked
  cases hallowed : isAllowedPrelude host context part rest with
  | true => rfl
  | false =>
    exfalso
    have haccepts := passAccepts_iff.mpr haccepted
    obtain ⟨flags, hlength, hflags⟩ := @preludePass_split host context part rest before
    have hentry : (part, false) ∈ (before ++ part :: rest).zip
        (preludePass host context (before ++ part :: rest)).1 := by
      rw [hflags, List.zip_append hlength.symm, hallowed]
      simp
    have hsatisfied : part.evaluation.allowlistSatisfied = true :=
      (haccepts _ hentry).resolve_right (by simp)
    obtain ⟨hne, hjustified, hnone⟩ := (hsound part (by simp)).justified hsatisfied
    rw [hallowed] at hmarked
    have hreasons : part.evaluation.segmentSatisfiedBy ≠ [] := by
      intro hnil
      have hlength := hjustified.reasons
      rw [hnil] at hlength
      exact hne (List.eq_nil_of_length_eq_zero hlength.symm)
    obtain ⟨reason, hreason⟩ := List.exists_mem_of_ne_nil _ hreasons
    have hprelude := hmarked reason hreason
    rw [hprelude] at hreason
    exact hnone hreason

theorem marked_of_isAllowedPrelude (hallowed : isAllowedPrelude host context part rest = true) :
    ∀ reason ∈ reasonsAt (chainVerdict host context (before ++ part :: rest)) before part,
      reason = some .skillPrelude := by
  rw [reasonsAt_chainVerdict hsound haccepted, hallowed]
  simp [effectiveSatisfiedBy]

end

theorem exists_first_joint (run : List ChainEvaluation) :
    (∀ between ∈ run, between.opToNext = some .and) ∨
      ∃ list joint more, run = list ++ joint :: more ∧
        (∀ between ∈ list, between.opToNext = some .and) ∧
        joint.opToNext ≠ some .and := by
  induction run with
  | nil => simp
  | cons first rest ih =>
    by_cases hop : first.opToNext = some .and
    · rcases ih with hall | ⟨list, joint, more, rfl, hlist, hjoint⟩
      · left
        simpa [hop] using hall
      · right
        refine ⟨first :: list, joint, more, rfl, ?_, hjoint⟩
        simpa [hop] using hlist
    · exact .inr ⟨[], first, rest, rfl, by simp, hop⟩

theorem servedTogether_of_no_bridge {before rest : List ChainEvaluation} {part : ChainEvaluation}
    (haccepted : Accepted host context (before ++ part :: rest))
    (hbridge : ¬ SkillBridge host context (before ++ part :: rest))
    (hprelude : part.isPreludeOnly host context = true)
    (hop : part.opToNext = some .and) (hreaches : Reaches host context part rest) :
    ServedTogether host context part rest := by
  obtain ⟨run, other, after, rfl, hrun, hserved⟩ := hreaches
  rcases exists_first_joint run with hall | ⟨list, joint, more, rfl, hlist, hjoint⟩
  · refine ⟨run, other, after, rfl, ?_, hserved⟩
    simpa [hop] using hall
  · have htrusted : joint.trustedSkillIds host ≠ [] := by
      rcases hrun joint (by simp) with htrusted | hjointPrelude
      · exact htrusted
      · have hjointAccepted := haccepted (before ++ part :: list) joint
          (more ++ other :: after) (by simp)
        rcases hjointAccepted with hsatisfied | ⟨-, hjointOp, -⟩
        · rw [(isPreludeOnly_spec hjointPrelude).1] at hsatisfied
          exact absurd hsatisfied (by simp)
        · exact absurd hjointOp hjoint
    by_contra htogether
    apply hbridge
    refine ⟨haccepted, before, part, list, joint, more ++ other :: after, by simp,
      hprelude, by simpa [hop] using hlist, hjoint, htrusted, ?_⟩
    intro between hbetween
    by_contra hserves
    have hserves : part.isServedBy host context
        (between.trustedSkillIds host) = true := by simpa using hserves
    apply htogether
    obtain ⟨first, second, hsplit⟩ := List.append_of_mem hbetween
    refine ⟨first, between, second ++ (more ++ other :: after), ?_, ?_, hserves⟩
    · have hjoined : list ++ joint :: more = (list ++ [joint]) ++ more := by simp
      rw [hjoined, hsplit]
      simp
    · -- only the last of these parts has another operator
      have hfirst : ∀ each ∈ first, each ∈ list := by
        have hprefix : first <+: list := by
          have hproper : first.length ≤ list.length := by
            have hlengths := congrArg List.length hsplit
            simp only [List.length_append, List.length_cons, List.length_nil] at hlengths
            omega
          have hwhole : first <+: list ++ [joint] := by
            rw [hsplit]
            exact List.prefix_append _ _
          exact List.prefix_of_prefix_length_le hwhole (List.prefix_append _ _) hproper
        exact fun each heach => hprefix.subset heach
      intro each heach
      rcases List.mem_cons.mp heach with rfl | hmem
      · exact hop
      · exact hlist each (hfirst each hmem)

theorem not_servedTogether_of_bridge {list after : List ChainEvaluation}
    {part joint : ChainEvaluation} (hjoint : joint.opToNext ≠ some .and)
    (hserves : ∀ between ∈ list ++ [joint],
      part.isServedBy host context (between.trustedSkillIds host) = false) :
    ¬ ServedTogether host context part (list ++ joint :: after) := by
  rintro ⟨others, other, rest, hsplit, hops, hserved⟩
  rcases List.append_eq_append_iff.mp hsplit with
    ⟨middle, rfl, htail⟩ | ⟨middle, rfl, htail⟩
  · cases middle with
    | nil =>
      obtain ⟨rfl, -⟩ := List.cons.inj htail
      rw [hserves joint (by simp)] at hserved
      exact absurd hserved (by simp)
    | cons head middle =>
      obtain ⟨rfl, -⟩ := List.cons.inj htail
      exact hjoint (hops joint (by simp))
  · cases middle with
    | nil | cons head middle =>
      obtain ⟨rfl, -⟩ := List.cons.inj htail
      rw [hserves other (by simp)] at hserved
      exact absurd hserved (by simp)

end Verdict

/-- A satisfied allowlist is justified segment by segment, and its preludes are
served in their `&&` lists, exactly where no prelude is carried over the operator
after the execution of another skill. -/
theorem shell_allowlist_justified_iff (host : PolicyHost)
    (context : ExecAllowlistContext) (command : JsString) :
    ((evaluateShellAllowlist host context command).allowlistSatisfied = true →
      VerdictJustified host context command (evaluateShellAllowlist host context command)) ↔
      ∀ parts, chainOf host context command = some parts → ¬ SkillBridge host context parts := by
  cases hchain : chainOf host context command with
  | none =>
    refine ⟨fun _ parts hparts => absurd hparts (by simp), fun _ hsatisfied => ?_⟩
    refine ⟨?_, fun parts hparts => absurd (hchain ▸ hparts) (by simp)⟩
    unfold chainOf at hchain
    unfold evaluateShellAllowlist at hsatisfied ⊢
    split_ifs at hchain hsatisfied ⊢ with hcontinuation
    · simp [analysisFailure] at hsatisfied
    · cases hparts : chainPartsOf host context command with
      | some chainParts =>
        rw [hparts] at hchain hsatisfied
        simp only [Option.bind_some] at hchain
        simp [hchain, analysisFailure] at hsatisfied
      | none =>
        rw [hparts] at hsatisfied
        dsimp only at hsatisfied ⊢
        split at hsatisfied
        next => simp [analysisFailure] at hsatisfied
        next analysis hanalyze =>
            obtain ⟨hchains, -⟩ := analyzeShellCommand_spec host hanalyze
            exact (evaluateExecAllowlist_justified host context hchains hsatisfied).2.1
  | some parts =>
    have hverdict : evaluateShellAllowlist host context command =
        chainVerdict host context parts := by
      unfold chainOf at hchain
      unfold evaluateShellAllowlist
      split_ifs at hchain ⊢ with hcontinuation
      obtain ⟨chainParts, hparts, hevaluated⟩ := Option.bind_eq_some_iff.mp hchain
      simp only [hparts, hevaluated]
      rfl
    have hsound : ∀ part ∈ parts, PartSound host context part := by
      unfold chainOf at hchain
      split_ifs at hchain
      obtain ⟨chainParts, -, hevaluated⟩ := Option.bind_eq_some_iff.mp hchain
      exact evaluateChainParts_sound host context hevaluated
    rw [hverdict, chainVerdict_satisfied_iff]
    constructor
    · rintro hjustified others hothers ⟨haccepted, before, part, list, joint,
        after, rfl, hprelude, hops, hjoint, htrusted, hserves⟩
      cases hothers
      have hpart := haccepted before part (list ++ joint :: after) rfl
      have hreaches : Reaches host context part (list ++ joint :: after) := by
        rcases hpart with hsatisfied | ⟨-, -, hreaches⟩
        · rw [(isPreludeOnly_spec hprelude).1] at hsatisfied
          exact absurd hsatisfied (by simp)
        · exact hreaches
      have hrest : Accepted host context (list ++ joint :: after) := by
        intro others other tail hsplit
        exact haccepted (before ++ part :: others) other tail (by simp [hsplit])
      have hallowed : isAllowedPrelude host context part (list ++ joint :: after) = true :=
        (isAllowedPrelude_iff (passAccepts_iff.mpr hrest)).mpr
          ⟨hprelude, hops part List.mem_cons_self, hreaches⟩
      have hserved := (hjustified haccepted).preludes _ hchain before part _ rfl
        (marked_of_isAllowedPrelude hsound haccepted hallowed)
      exact not_servedTogether_of_bridge hjoint hserves hserved
    · intro hbridge haccepted
      refine ⟨chainVerdict_justified hsound haccepted, ?_⟩
      intro others hothers before part rest hsplit hmarked
      rw [hchain] at hothers
      cases hothers
      subst hsplit
      have hallowed := isAllowedPrelude_of_marked hsound haccepted hmarked
      have hrest : Accepted host context rest := by
        intro others other tail htail
        exact haccepted (before ++ part :: others) other tail (by simp [htail])
      obtain ⟨hprelude, hop, hreaches⟩ :=
        (isAllowedPrelude_iff (passAccepts_iff.mpr hrest)).mp hallowed
      exact servedTogether_of_no_bridge haccepted (hbridge _ rfl) hprelude hop hreaches

def skillHost : PolicyHost where
  lowerTable := fun unit => [unit]
  platform := js "linux"
  cwd := js "/work"
  processHome := none
  home := none
  pathEnv := js "/bin"
  isExecutableFile := fun _ => true
  stripWindowsShellWrapper := id
  matchesExecAllowlistPattern := fun pattern path => pattern == path
  matchArgPattern := fun _ _ _ => true
  isTrustedSafeBinPath := fun _ => false
  validateSafeBinArgv := fun _ => none

def skillContext : ExecAllowlistContext where
  allowlist := [⟨js "/bin/a-wrapper", none⟩, ⟨js "/bin/b-wrapper", none⟩]
  safeBins := []
  cwd := none
  platform := none
  skillBins := []
  autoAllowSkills := false

/-- The text of `b` is shown on the strength of an execution behind a `;`. -/
theorem prelude_passes_semicolon : ∃ command, (evaluateShellAllowlist skillHost skillContext
        command).allowlistSatisfied = true ∧
      ¬ VerdictJustified skillHost skillContext command
        (evaluateShellAllowlist skillHost skillContext command) := by
  refine ⟨js "cat /s/skills/b/SKILL.md && a-wrapper ; b-wrapper", by decide +kernel, ?_⟩
  intro hjustified
  have hparts : (chainOf skillHost skillContext
      (js "cat /s/skills/b/SKILL.md && a-wrapper ; b-wrapper")).map
        (fun parts => parts.map fun part =>
          (part.preludeSkillIds skillHost skillContext, part.opToNext,
            part.trustedSkillIds skillHost)) =
      some [([js "b"], some .and, []), ([], some .sequence, [js "a"]), ([], none, [js "b"])] := by
    decide +kernel
  have hreasons : (evaluateShellAllowlist skillHost skillContext
      (js "cat /s/skills/b/SKILL.md && a-wrapper ; b-wrapper")).segmentSatisfiedBy =
      [some .skillPrelude, some .allowlist, some .allowlist] := by
    decide +kernel
  have hlengths : (chainOf skillHost skillContext
      (js "cat /s/skills/b/SKILL.md && a-wrapper ; b-wrapper")).map
        (fun parts => parts.map fun part => part.analysis.segments.length) =
      some [1, 1, 1] := by
    decide +kernel
  obtain ⟨parts, hchain, hparts⟩ := Option.map_eq_some_iff.mp hparts
  rw [hchain, Option.map_some, Option.some.injEq] at hlengths
  obtain ⟨first, second, third, rfl⟩ : ∃ first second third, parts = [first, second, third] := by
    apply List.length_eq_three.mp
    simpa using congrArg List.length hlengths
  simp only [List.map_cons, List.map_nil, List.cons.injEq, Prod.mk.injEq,
    and_true] at hparts hlengths
  obtain ⟨⟨hids, -, -⟩, ⟨-, hop, htrusted⟩, -, -, -⟩ := hparts
  obtain ⟨list, other, after, hsplit, hops, hserved⟩ :=
    hjustified.preludes _ hchain [] first [second, third] rfl (by
      unfold reasonsAt
      rw [hreasons, hlengths.1]
      simp)
  cases list with
  | nil =>
    obtain ⟨rfl, -⟩ := List.cons.inj hsplit
    rw [htrusted, ChainEvaluation.isServedBy, hids] at hserved
    exact absurd hserved (by decide)
  | cons head list =>
    obtain ⟨rfl, -⟩ := List.cons.inj hsplit
    have hand := hops second (by simp)
    rw [hop] at hand
    exact absurd hand (by decide)

end LittleBaby.Exec
