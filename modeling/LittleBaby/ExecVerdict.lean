import LittleBaby.ExecNames

/-!
# What a verdict rests on

Where the allowlist is satisfied, every segment has a reason and none is
blocked.
-/

namespace LittleBaby.Exec

open JsString CommandResolution

variable (host : PolicyHost) (context : ExecAllowlistContext)

structure Justified (segments : List ExecCommandSegment)
    (entries : List (Option ExecAllowlistEntry))
    (satisfiedBy : List (Option ExecSegmentSatisfiedBy)) : Prop where
  entries : entries.length = segments.length
  reasons : satisfiedBy.length = segments.length
  unblocked : ∀ segment ∈ segments, segment.resolution.any policyBlocked = false
  satisfied : none ∉ satisfiedBy

theorem Justified.nil : Justified [] [] [] := ⟨rfl, rfl, by simp, by simp⟩

theorem Justified.append {left right : List ExecCommandSegment}
    {leftEntries rightEntries : List (Option ExecAllowlistEntry)}
    {leftBy rightBy : List (Option ExecSegmentSatisfiedBy)}
    (hleft : Justified left leftEntries leftBy)
    (hright : Justified right rightEntries rightBy) :
    Justified (left ++ right) (leftEntries ++ rightEntries) (leftBy ++ rightBy) where
  entries := by simp [hleft.entries, hright.entries]
  reasons := by simp [hleft.reasons, hright.reasons]
  unblocked := by
    intro segment hsegment
    rcases List.mem_append.mp hsegment with hmem | hmem
    · exact hleft.unblocked segment hmem
    · exact hright.unblocked segment hmem
  satisfied := by simp [hleft.satisfied, hright.satisfied]

theorem resolveSegmentSatisfaction_ne_prelude (found : Option ExecAllowlistEntry)
    (segment : ExecCommandSegment) (effectiveArgv : Argv) :
    resolveSegmentSatisfaction host context found segment effectiveArgv ≠ some .skillPrelude := by
  simp only [resolveSegmentSatisfaction]
  split_ifs <;> simp

theorem SegmentsEvaluation.cons_satisfied {found : List ExecAllowlistEntry}
    {entry : Option ExecAllowlistEntry} {reason : Option ExecSegmentSatisfiedBy}
    {others : SegmentsEvaluation}
    (hsatisfied : (others.cons found entry reason).satisfied = true) :
    reason ≠ none ∧ others.satisfied = true ∧
      (others.cons found entry reason).segmentAllowlistEntries =
        entry :: others.segmentAllowlistEntries ∧
      (others.cons found entry reason).segmentSatisfiedBy =
        reason :: others.segmentSatisfiedBy := by
  unfold SegmentsEvaluation.cons at hsatisfied ⊢
  cases reason with
  | none => simp at hsatisfied
  | some reason => simpa using hsatisfied

theorem evaluateSegments_cons (inlineChain : List JsString → Option (List ExecAllowlistEntry))
    (segment : ExecCommandSegment) (rest : List ExecCommandSegment)
    (hunblocked : segment.resolution.any policyBlocked = false) :
    ∃ found entry reason, reason ≠ some .skillPrelude ∧
      evaluateSegments host context inlineChain (segment :: rest) =
        (evaluateSegments host context inlineChain rest).cons found entry
          reason := by
  simp only [evaluateSegments, hunblocked, Bool.false_eq_true, if_false]
  split
  next found _ => exact ⟨_, _, _, by simp, rfl⟩
  next =>
      exact ⟨_, _, _, resolveSegmentSatisfaction_ne_prelude host context _ _ _, rfl⟩

variable {segments : List ExecCommandSegment}

theorem evaluateSegments_justified (inlineChain : List JsString → Option (List ExecAllowlistEntry))
    (hsatisfied : (evaluateSegments host context inlineChain segments).satisfied = true) :
    Justified segments (evaluateSegments host context inlineChain segments).segmentAllowlistEntries
        (evaluateSegments host context inlineChain segments).segmentSatisfiedBy ∧
      some .skillPrelude ∉
        (evaluateSegments host context inlineChain segments).segmentSatisfiedBy := by
  induction segments with
  | nil => exact ⟨Justified.nil, by simp [evaluateSegments]⟩
  | cons segment rest ih =>
    cases hblocked : segment.resolution.any policyBlocked with
    | true => simp [evaluateSegments, hblocked] at hsatisfied
    | false =>
      obtain ⟨found, entry, reason, hprelude, hcons⟩ :=
        evaluateSegments_cons host context inlineChain segment rest hblocked
      rw [hcons] at hsatisfied ⊢
      obtain ⟨hreason, hothers, hentries, hreasons⟩ := SegmentsEvaluation.cons_satisfied hsatisfied
      obtain ⟨hrest, hnone⟩ := ih hothers
      rw [hentries, hreasons]
      refine ⟨⟨by simp [hrest.entries], by simp [hrest.reasons], ?_, ?_⟩, ?_⟩
      · intro other hother
        rcases List.mem_cons.mp hother with rfl | hmem
        · exact hblocked
        · exact hrest.unblocked other hmem
      · simp [hrest.satisfied, Ne.symm hreason]
      · simp [hnone, Ne.symm hprelude]

theorem evaluateGroups_justified {hasChains : Bool}
    {groups : List (List ExecCommandSegment)} {done : ExecAllowlistEvaluation}
    {before : List ExecCommandSegment}
    (hbefore : Justified before done.segmentAllowlistEntries done.segmentSatisfiedBy)
    (hnone : some .skillPrelude ∉ done.segmentSatisfiedBy)
    (hsatisfied : (evaluateGroups host context hasChains done groups).allowlistSatisfied = true) :
    Justified (before ++ groups.flatten) (evaluateGroups host context hasChains done
          groups).segmentAllowlistEntries
        (evaluateGroups host context hasChains done groups).segmentSatisfiedBy ∧
      some .skillPrelude ∉
        (evaluateGroups host context hasChains done groups).segmentSatisfiedBy := by
  induction groups generalizing done before with
  | nil => simpa using ⟨hbefore, hnone⟩
  | cons group rest ih =>
    cases hgroup : (evaluateTopSegments host context group).satisfied with
    | false => cases hasChains <;> simp [evaluateGroups, hgroup] at hsatisfied
    | true =>
      have hnext : evaluateGroups host context hasChains done (group :: rest) =
          evaluateGroups host context hasChains ⟨true, done.allowlistMatches ++
                (evaluateTopSegments host context group).found,
              done.segmentAllowlistEntries ++ (evaluateTopSegments host context
                  group).segmentAllowlistEntries,
              done.segmentSatisfiedBy ++
                (evaluateTopSegments host context group).segmentSatisfiedBy⟩
            rest := by
        simp [evaluateGroups, hgroup]
      obtain ⟨hjustified, hprelude⟩ := evaluateSegments_justified host context _ hgroup
      rw [hnext] at hsatisfied ⊢
      rw [List.flatten_cons, ← List.append_assoc]
      apply ih (hbefore.append hjustified) _ hsatisfied
      rw [List.mem_append]
      exact not_or.mpr ⟨hnone, hprelude⟩

theorem evaluateExecAllowlist_justified {analysis : ExecCommandAnalysis}
    (hchains : ∀ chains, analysis.chains = some chains → analysis.segments = chains.flatten)
    (hsatisfied : (evaluateExecAllowlist host context analysis).allowlistSatisfied = true) :
    analysis.segments ≠ [] ∧ Justified analysis.segments
        (evaluateExecAllowlist host context analysis).segmentAllowlistEntries
        (evaluateExecAllowlist host context analysis).segmentSatisfiedBy ∧
      some .skillPrelude ∉ (evaluateExecAllowlist host context analysis).segmentSatisfiedBy := by
  unfold evaluateExecAllowlist at hsatisfied ⊢
  by_cases hnil : analysis.segments = []
  · simp [hnil] at hsatisfied
  · rw [if_neg hnil] at hsatisfied ⊢
    obtain ⟨hjustified, hnone⟩ := evaluateGroups_justified host context
      Justified.nil (by simp) hsatisfied
    refine ⟨hnil, ?_, hnone⟩
    have hflatten : (analysis.chains.getD [analysis.segments]).flatten = analysis.segments := by
      cases hcase : analysis.chains with
      | none => simp
      | some chains => simpa using (hchains chains hcase).symm
    rw [List.nil_append, hflatten] at hjustified
    exact hjustified

variable {cwd : Option JsString}

theorem parseSegmentsFromParts_resolution {parts : List JsString}
    (hparse : parseSegmentsFromParts host.toHost cwd parts = some segments) :
    ∀ segment ∈ segments, ∃ argv, segment.resolution =
      resolveCommandResolutionFromArgv host.toHost argv cwd := by
  induction parts generalizing segments with
  | nil =>
    cases hparse
    simp
  | cons raw rest ih =>
    rw [parseSegmentsFromParts] at hparse
    split at hparse
    next => simp at hparse
    next => simp at hparse
    next argv _ _ =>
        obtain ⟨others, hothers, rfl⟩ := Option.map_eq_some_iff.mp hparse
        intro segment hsegment
        rcases List.mem_cons.mp hsegment with rfl | hmem
        · exact ⟨argv, rfl⟩
        · exact ih hothers segment hmem

theorem analyzePipeline_resolution {command : JsString}
    (hanalyze : analyzePipeline host.toHost cwd command = .ok segments) :
    ∀ segment ∈ segments, ∃ argv, segment.resolution =
      resolveCommandResolutionFromArgv host.toHost argv cwd := by
  unfold analyzePipeline at hanalyze
  split at hanalyze
  next => simp at hanalyze
  next =>
      split at hanalyze
      next => simp at hanalyze
      next hparse =>
          cases hanalyze
          exact parseSegmentsFromParts_resolution host hparse

theorem analyzeChain_resolution {parts : List JsString} {chains : List (List ExecCommandSegment)}
    (hanalyze : analyzeChain host.toHost cwd parts = .ok chains) :
    ∀ segment ∈ chains.flatten, ∃ argv, segment.resolution =
      resolveCommandResolutionFromArgv host.toHost argv cwd := by
  induction parts generalizing chains with
  | nil =>
    cases hanalyze
    simp
  | cons part rest ih =>
    rw [analyzeChain] at hanalyze
    split at hanalyze
    next => simp at hanalyze
    next segments hpipeline =>
        split at hanalyze
        next => simp at hanalyze
        next others hothers =>
            cases hanalyze
            intro segment hsegment
            rw [List.flatten_cons, List.mem_append] at hsegment
            rcases hsegment with hfirst | hrest
            · exact analyzePipeline_resolution host hpipeline segment hfirst
            · exact ih hothers segment hrest

theorem analyzeShellCommand_spec {platform : Option JsString}
    {command : JsString} {analysis : ExecCommandAnalysis}
    (hanalyze : analyzeShellCommand host.toHost host.stripWindowsShellWrapper
      platform cwd command = .ok analysis) :
    (∀ chains, analysis.chains = some chains → analysis.segments = chains.flatten) ∧
      ∀ segment ∈ analysis.segments, ∃ argv, segment.resolution =
        resolveCommandResolutionFromArgv host.toHost argv cwd := by
  unfold analyzeShellCommand at hanalyze
  split_ifs at hanalyze
  · unfold analyzeWindowsShellCommand at hanalyze
    dsimp only at hanalyze
    split at hanalyze
    next => simp at hanalyze
    next =>
        split at hanalyze
        next => simp at hanalyze
        next argv _ =>
            cases hanalyze
            refine ⟨by simp, ?_⟩
            intro segment hsegment
            obtain rfl := List.mem_singleton.mp hsegment
            exact ⟨argv, rfl⟩
  · split at hanalyze
    next =>
        split at hanalyze
        next => simp at hanalyze
        next hchain =>
            cases hanalyze
            refine ⟨?_, analyzeChain_resolution host hchain⟩
            rintro chains hchains
            cases hchains
            rfl
    next =>
        split at hanalyze
        next => simp at hanalyze
        next hpipeline =>
            cases hanalyze
            exact ⟨by simp, analyzePipeline_resolution host hpipeline⟩

theorem isSkillPreludeSegment_unblocked {segment : ExecCommandSegment}
    {argv : Argv} (hresolution : segment.resolution =
      resolveCommandResolutionFromArgv host.toHost argv context.cwd)
    (hprelude : isSkillPreludeSegment host context segment = true) :
    segment.resolution.any policyBlocked = false := by
  have hname : ∃ name ∈ ["cat", "printf"], executionNameIs host segment name = true := by
    unfold isSkillPreludeSegment at hprelude
    rcases Bool.or_eq_true_iff.mp hprelude with hread | hmarker
    · refine ⟨"cat", by simp, ?_⟩
      cases hname : executionNameIs host segment "cat" with
      | true => rfl
      | false => simp [skillPreludeReadPath, hname] at hread
    · refine ⟨"printf", by simp, ?_⟩
      exact (Bool.and_eq_true_iff.mp hmarker).1
  obtain ⟨name, hmem, hname⟩ := hname
  unfold executionNameIs executionOf at hname
  cases hcase : segment.resolution with
  | none => rfl
  | some resolution =>
    rw [hcase] at hname hresolution
    have hlower : host.normalizeLowercaseStringOrEmpty
        resolution.execution.executableName = js name := by
      simpa using hname
    apply not_policyBlocked_of_name host.toHost hresolution.symm _ hlower
    simp only [List.mem_cons, List.not_mem_nil, or_false] at hmem ⊢
    rcases hmem with rfl | rfl
    · exact .inl rfl
    · exact .inr rfl

end LittleBaby.Exec
