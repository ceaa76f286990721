import LittleBaby.ExecAllowlist

/-!
# The name of an executable

The resolved path of an executable ends in the name that the command gives.
-/

namespace LittleBaby.Exec

open JsString

section Components

variable {isSeparator : UInt16 → Bool}

variable {separator : UInt16}

theorem components_append (left right : JsString) (hseparator : isSeparator separator = true) :
    components isSeparator (left ++ separator :: right) =
      components isSeparator left ++ components isSeparator right := by
  unfold components
  rw [List.splitOnP_append_cons left right hseparator, List.filter_append]

theorem components_cons_separator (path : JsString) (hseparator : isSeparator separator = true) :
    components isSeparator (separator :: path) = components isSeparator path := by
  have hsplit := components_append [] path hseparator
  simpa [components] using hsplit

theorem components_of_forall_not {name : JsString} (hne : name ≠ [])
    (hname : ∀ unit ∈ name, isSeparator unit = false) :
    components isSeparator name = [name] := by
  unfold components
  rw [List.splitOnP_eq_singleton hname]
  simp [hne]

theorem components_append_separator (path : JsString) (hseparator : isSeparator separator = true) :
    components isSeparator (path ++ [separator]) = components isSeparator path := by
  have hsplit := components_append path [] hseparator
  simpa [components] using hsplit

theorem components_join {parts : List JsString}
    (hparts : ∀ part ∈ parts, part ≠ [] ∧ ∀ unit ∈ part, isSlash unit = false) :
    components isSlash (joinParts parts) = parts := by
  cases parts with
  | nil => rfl
  | cons first rest =>
    have hsplit : (joinParts (first :: rest)).splitOnP isSlash = first :: rest := by
      have hsplitOn := List.splitOn_intercalate slash (fun part hpart hslash => by
          have hunit := (hparts part hpart).2 slash hslash
          simp [isSlash] at hunit) (List.cons_ne_nil first rest)
      exact hsplitOn
    unfold components
    rw [hsplit, List.filter_eq_self]
    intro part hpart
    simpa using (hparts part hpart).1

theorem mem_components {path part : JsString} (hpart : part ∈ components isSeparator path) :
    part ≠ [] ∧ ∀ unit ∈ part, isSeparator unit = false ∧ unit ∈ path := by
  unfold components at hpart
  rw [List.mem_filter] at hpart
  obtain ⟨hsplit, hne⟩ := hpart
  refine ⟨by simpa using hne, ?_⟩
  clear hne
  induction path generalizing part with
  | nil => simp_all
  | cons first rest ih =>
    rw [List.splitOnP_cons_eq_if_modifyHead] at hsplit
    split_ifs at hsplit with hfirst
    · rcases List.mem_cons.mp hsplit with rfl | hrest
      · simp
      · intro unit hunit
        obtain ⟨hseparator, hmem⟩ := ih hrest unit hunit
        exact ⟨hseparator, List.mem_cons_of_mem _ hmem⟩
    · cases hcase : rest.splitOnP isSeparator with
      | nil => exact absurd hcase (List.splitOnP_ne_nil _ _)
      | cons head tail =>
        rw [hcase, List.modifyHead_cons] at hsplit
        intro unit hunit
        rcases List.mem_cons.mp hsplit with rfl | htail
        · rcases List.mem_cons.mp hunit with rfl | hhead
          · exact ⟨by simpa using hfirst, List.mem_cons_self⟩
          · obtain ⟨hseparator, hmem⟩ := ih (hcase ▸ List.mem_cons_self) unit hhead
            exact ⟨hseparator, List.mem_cons_of_mem _ hmem⟩
        · obtain ⟨hseparator, hmem⟩ := ih (hcase ▸ List.mem_cons_of_mem _ htail) unit hunit
          exact ⟨hseparator, List.mem_cons_of_mem _ hmem⟩

theorem basenameBy_of_components {path name : JsString} {before : List JsString}
    (hcomponents : components isSeparator path = before ++ [name]) :
    basenameBy isSeparator path = name := by
  unfold basenameBy
  rw [hcomponents]
  simp

theorem components_eq_of_basenameBy {path name : JsString}
    (hbasename : basenameBy isSeparator path = name) (hne : name ≠ []) :
    ∃ before, components isSeparator path = before ++ [name] := by
  unfold basenameBy at hbasename
  rcases List.eq_nil_or_concat (components isSeparator path) with
    hnil | ⟨before, last, hconcat⟩
  · rw [hnil] at hbasename
    exact absurd hbasename.symm hne
  · rw [hconcat, List.concat_eq_append] at hbasename ⊢
    obtain rfl : last = name := by simpa using hbasename
    exact ⟨before, rfl⟩

end Components

/-! ## Normalized paths -/

def IsProperName (name : JsString) : Prop := name ≠ js "." ∧ name ≠ js ".."

variable {name : JsString}

theorem normalizeParts_concat (aboveRoot : Bool)
    (hname : IsProperName name) (done parts : List JsString) :
    ∃ before, normalizeParts aboveRoot done (parts ++ [name]) = before ++ [name] := by
  induction parts generalizing done with
  | nil => exact ⟨done.reverse, by simp [normalizeParts, hname.1, hname.2]⟩
  | cons part rest ih =>
    rw [List.cons_append, normalizeParts]
    split_ifs
    · exact ih done
    · exact ih _
    · exact ih _

theorem mem_parentParts {aboveRoot : Bool} {done : List JsString}
    {part : JsString} (hpart : part ∈ parentParts aboveRoot done) :
    part ∈ done ∨ part = js ".." := by
  cases done with
  | nil =>
    cases aboveRoot with
    | false => simp [parentParts] at hpart
    | true => exact .inr (by simpa [parentParts] using hpart)
  | cons last before =>
    simp only [parentParts] at hpart
    split_ifs at hpart
    · rcases List.mem_cons.mp hpart with rfl | hdone
      · exact .inr rfl
      · exact .inl hdone
    · exact .inl (List.mem_cons_of_mem _ hpart)

theorem mem_normalizeParts {aboveRoot : Bool} {done parts : List JsString}
    {part : JsString} (hpart : part ∈ normalizeParts aboveRoot done parts) :
    part ∈ done ∨ part ∈ parts := by
  induction parts generalizing done with
  | nil => simpa [normalizeParts] using hpart
  | cons first rest ih =>
    rw [normalizeParts] at hpart
    split_ifs at hpart with hdot hup
    · exact (ih hpart).imp_right (List.mem_cons_of_mem _)
    · rcases ih hpart with hdone | hrest
      · rcases mem_parentParts hdone with hbefore | rfl
        · exact .inl hbefore
        · exact .inr (hup ▸ List.mem_cons_self)
      · exact .inr (List.mem_cons_of_mem _ hrest)
    · rcases ih hpart with hdone | hrest
      · rcases List.mem_cons.mp hdone with rfl | hbefore
        · exact .inr List.mem_cons_self
        · exact .inl hbefore
      · exact .inr (List.mem_cons_of_mem _ hrest)

theorem components_joined_parts (aboveRoot : Bool) (path : JsString) :
    components isSlash (joinParts (pathParts aboveRoot path)) = pathParts aboveRoot path := by
  apply components_join
  intro part hpart
  have hmem : part ∈ components isSlash path := by
    simpa using mem_normalizeParts hpart
  obtain ⟨hne, hunits⟩ := mem_components hmem
  exact ⟨hne, fun unit hunit => (hunits unit hunit).1⟩

variable {path : JsString}

theorem pathParts_concat (aboveRoot : Bool) {before : List JsString} (hname : IsProperName name)
    (hcomponents : components isSlash path = before ++ [name]) :
    ∃ parts, pathParts aboveRoot path = parts ++ [name] := by
  unfold pathParts
  rw [hcomponents]
  exact normalizeParts_concat aboveRoot hname [] before

theorem isSlash_slash : isSlash slash = true := by decide

variable (host : Host)

theorem basename_resolvePath {base : JsString} {before : List JsString} (hname : IsProperName name)
    (hcomponents : components isSlash path = before ++ [name]) :
    basename (resolvePath host base path) = name := by
  have hparts : ∀ full : JsString, (∃ others, components isSlash full = others ++ [name]) →
      basename (slash :: joinParts (pathParts false full)) = name := by
    rintro full ⟨others, hfull⟩
    obtain ⟨parts, hconcat⟩ := pathParts_concat false hname hfull
    apply @basenameBy_of_components _ _ _ parts
    rw [components_cons_separator _ isSlash_slash, components_joined_parts, hconcat]
  apply hparts
  split_ifs
  · exact ⟨before, hcomponents⟩
  · refine ⟨components isSlash base ++ before, ?_⟩
    rw [components_append _ _ isSlash_slash, hcomponents, List.append_assoc]
  · refine ⟨components isSlash host.cwd ++ (components isSlash base ++ before), ?_⟩
    rw [components_append _ _ isSlash_slash, components_append _ _ isSlash_slash, hcomponents]
    simp

theorem basename_joinPath {entry : JsString} (hname : IsProperName name)
    (hcomponents : components isSlash name = [name]) :
    basename (joinPath entry name) = name := by
  have hfull : components isSlash (entry ++ slash :: name) =
      components isSlash entry ++ [name] := by
    rw [components_append _ _ isSlash_slash, hcomponents]
  obtain ⟨parts, hconcat⟩ := pathParts_concat (!isAbsolute (entry ++ slash :: name)) hname hfull
  have hjoined := components_joined_parts
    (!isAbsolute (entry ++ slash :: name)) (entry ++ slash :: name)
  have hne : joinParts (pathParts (!isAbsolute (entry ++ slash :: name))
      (entry ++ slash :: name)) ≠ [] := by
    intro hnil
    rw [hnil, hconcat] at hjoined
    simp [components] at hjoined
  apply @basenameBy_of_components _ _ _ parts
  rw [← hconcat, ← hjoined]
  unfold joinPath normalizePath
  simp only [hne, if_false]
  split_ifs
  · rw [List.cons_append, components_cons_separator _ isSlash_slash,
      components_append_separator _ isSlash_slash]
  · rw [List.append_nil, components_cons_separator _ isSlash_slash]
  · rw [components_append_separator _ isSlash_slash]
  · rw [List.append_nil]

theorem exists_last_name (path : JsString) : (∀ unit ∈ path, unit = slash) ∨
      ∃ before name after, path = before ++ (name ++ after) ∧ name ≠ [] ∧
        slash ∉ name ∧ (∀ unit ∈ after, unit = slash) ∧
        (before = [] ∨ ∃ dir, before = dir ++ [slash]) := by
  induction path using List.reverseRecOn with
  | nil => simp
  | append_singleton init last ih =>
    by_cases hlast : last = slash
    · subst last
      rcases ih with hall | ⟨before, name, after, rfl, hne, hname, hafter, hbefore⟩
      · left
        intro unit hunit
        rcases List.mem_append.mp hunit with hinit | hlast
        · exact hall unit hinit
        · exact List.mem_singleton.mp hlast
      · right
        refine ⟨before, name, after ++ [slash], by simp, hne, hname, ?_, hbefore⟩
        intro unit hunit
        rcases List.mem_append.mp hunit with hinit | hlast
        · exact hafter unit hinit
        · exact List.mem_singleton.mp hlast
    · right
      have hfresh : (init = [] ∨ ∃ dir, init = dir ++ [slash]) →
          ∃ before name after, init ++ [last] = before ++ (name ++ after) ∧
            name ≠ [] ∧ slash ∉ name ∧ (∀ unit ∈ after, unit = slash) ∧
            (before = [] ∨ ∃ dir, before = dir ++ [slash]) := by
        intro hinit
        exact ⟨init, [last], [], by simp, by simp, by simpa using Ne.symm hlast, by simp, hinit⟩
      rcases ih with hall | ⟨before, name, after, rfl, hne, hname, hafter, hbefore⟩
      · apply hfresh
        rcases List.eq_nil_or_concat init with hnil | ⟨dir, unit, rfl⟩
        · exact .inl hnil
        · right
          obtain rfl := hall unit (by simp)
          exact ⟨dir, by simp⟩
      · rcases List.eq_nil_or_concat after with rfl | ⟨dir, unit, rfl⟩
        · refine ⟨before, name ++ [last], [], by simp, by simp, ?_, by simp, hbefore⟩
          simpa using ⟨hname, Ne.symm hlast⟩
        · apply hfresh
          right
          obtain rfl := hafter unit (by simp)
          exact ⟨before ++ (name ++ dir), by simp⟩

theorem basenameBy_last_name {isSeparator : UInt16 → Bool}
    (hslash : isSeparator slash = true) {before after : JsString}
    (hne : name ≠ []) (hname : ∀ unit ∈ name, isSeparator unit = false)
    (hafter : ∀ unit ∈ after, unit = slash)
    (hbefore : before = [] ∨ ∃ dir, before = dir ++ [slash]) :
    basenameBy isSeparator (before ++ (name ++ after)) = name := by
  have hend : components isSeparator (name ++ after) = [name] := by
    induction after using List.reverseRecOn with
    | nil =>
      rw [List.append_nil]
      exact components_of_forall_not hne hname
    | append_singleton init last ih =>
      obtain rfl := hafter last (by simp)
      rw [← List.append_assoc, components_append_separator _ hslash]
      apply ih
      intro unit hunit
      exact hafter unit (by simp [hunit])
  rcases hbefore with rfl | ⟨dir, rfl⟩
  · exact @basenameBy_of_components _ _ _ [] (by simpa using hend)
  · apply @basenameBy_of_components _ _ _ (components isSeparator dir)
    rw [List.append_assoc, List.singleton_append, components_append _ _ hslash, hend]

theorem basename_last_name {before name after : JsString} (hne : name ≠ [])
    (hname : slash ∉ name) (hafter : ∀ unit ∈ after, unit = slash)
    (hbefore : before = [] ∨ ∃ dir, before = dir ++ [slash]) :
    basename (before ++ (name ++ after)) = name := by
  apply basenameBy_last_name isSlash_slash hne _ hafter hbefore
  intro unit hunit
  have hother : unit ≠ slash := fun heq => hname (heq ▸ hunit)
  simpa [isSlash] using hother

theorem dropDrive_last_name {before after : JsString} (hne : name ≠ [])
    (hcolon : colon ∉ name) (hafter : ∀ unit ∈ after, unit = slash)
    (hbefore : before = [] ∨ ∃ dir, before = dir ++ [slash]) :
    ∃ rest, dropDrive (before ++ (name ++ after)) = rest ++ (name ++ after) ∧
      (rest = [] ∨ ∃ dir, rest = dir ++ [slash]) := by
  have hslash : colon ≠ slash := by decide
  rcases hbefore with rfl | ⟨dir, rfl⟩
  · refine ⟨[], ?_, .inl rfl⟩
    cases name with
    | nil => exact absurd rfl hne
    | cons first others =>
      cases others with
      | nil =>
        cases after with
        | nil => rfl
        | cons unit after =>
          obtain rfl := hafter unit List.mem_cons_self
          simp [dropDrive, hslash.symm]
      | cons second others =>
        have hsecond : second ≠ colon := by
          rintro rfl
          simp at hcolon
        simp [dropDrive, hsecond]
  · cases dir with
    | nil =>
      refine ⟨[slash], ?_, .inr ⟨[], rfl⟩⟩
      have hletter : isLetter slash = false := by decide
      cases name with
      | nil => exact absurd rfl hne
      | cons first others => simp [dropDrive, hletter]
    | cons first dir =>
      cases dir with
      | nil =>
        refine ⟨[first, slash], ?_, .inr ⟨[first], rfl⟩⟩
        simp [dropDrive, hslash.symm]
      | cons second dir =>
        by_cases hdrive : (isLetter first && second == colon) = true
        · refine ⟨dir ++ [slash], ?_, .inr ⟨dir, rfl⟩⟩
          simp [dropDrive, hdrive]
        · refine ⟨first :: second :: dir ++ [slash], ?_, .inr ⟨first :: second :: dir, rfl⟩⟩
          simp [dropDrive, hdrive]

variable {raw : JsString}

theorem basenameLower_eq (hbasename : basename raw = name)
    (hne : name ≠ []) (hbackslash : backslash ∉ name) (hcolon : colon ∉ name) :
    basenameLower host raw = host.normalizeLowercaseStringOrEmpty name := by
  rcases exists_last_name raw with
    hall | ⟨before, last, after, rfl, hlast, hslash, hafter, hbefore⟩
  · have hnone : components isSlash raw = [] := by
      rw [List.eq_nil_iff_forall_not_mem]
      intro part hpart
      obtain ⟨hpart, hunits⟩ := mem_components hpart
      obtain ⟨unit, hunit⟩ := List.exists_mem_of_ne_nil part hpart
      obtain ⟨hseparator, hmem⟩ := hunits unit hunit
      rw [hall unit hmem] at hseparator
      exact absurd hseparator (by decide)
    rw [basename, basenameBy, hnone] at hbasename
    exact absurd hbasename.symm hne
  · rw [basename_last_name hlast hslash hafter hbefore] at hbasename
    subst last
    obtain ⟨rest, hdrop, hrest⟩ := dropDrive_last_name hne hcolon hafter hbefore
    have hwin : win32Basename (before ++ (name ++ after)) = name := by
      unfold win32Basename
      rw [hdrop]
      apply basenameBy_last_name (by decide) hne _ hafter hrest
      intro unit hunit
      have hother : unit ≠ slash := fun heq => hslash (heq ▸ hunit)
      have hother' : unit ≠ backslash := fun heq => hbackslash (heq ▸ hunit)
      simp [hother, hother']
    unfold basenameLower
    simp [hwin, basename_last_name hne hslash hafter hbefore]

variable {unit : UInt16}

theorem mem_trim {text : JsString} (hmem : unit ∈ text)
    (hspace : isSpace unit = false) : unit ∈ trim text := by
  have hdrop : ∀ list : JsString, unit ∈ list → unit ∈ list.dropWhile isSpace := by
    intro list hlist
    induction list with
    | nil => simp at hlist
    | cons first rest ih =>
      rw [List.dropWhile_cons]
      split_ifs with hfirst
      · rcases List.mem_cons.mp hlist with rfl | hrest
        · rw [hspace] at hfirst
          exact absurd hfirst (by simp)
        · exact ih hrest
      · exact hlist
  unfold trim List.rdropWhile
  rw [List.mem_reverse]
  exact hdrop _ (List.mem_reverse.mpr (hdrop text hmem))

theorem not_mem_of_normalizeLowercase {text : JsString}
    (hspace : isSpace unit = false) (hbasic : unit < 0x80)
    (hletter : ¬ (0x41 ≤ unit ∧ unit ≤ 0x5A))
    (hnot : unit ∉ host.normalizeLowercaseStringOrEmpty text) : unit ∉ text := by
  intro hmem
  apply hnot
  unfold Host.normalizeLowercaseStringOrEmpty Host.toLowerCase
  rw [List.mem_flatMap]
  refine ⟨unit, mem_trim hmem hspace, ?_⟩
  simp [Host.lowerUnit, hletter, hbasic]

theorem normalizeLowercase_single (hspace : isSpace unit = false)
    (hbasic : unit < 0x80) (hletter : ¬ (0x41 ≤ unit ∧ unit ≤ 0x5A)) :
    host.normalizeLowercaseStringOrEmpty [unit] = [unit] := by
  unfold Host.normalizeLowercaseStringOrEmpty
  rw [trim_eq_self (by simpa using hspace)]
  simp [Host.toLowerCase, Host.lowerUnit, hletter, hbasic]

theorem normalizeLowercase_dots (count : ℕ) :
    host.normalizeLowercaseStringOrEmpty (List.replicate count dot) = List.replicate count dot := by
  unfold Host.normalizeLowercaseStringOrEmpty
  rw [trim_eq_self]
  · induction count with
    | zero => rfl
    | succ count ih =>
      rw [List.replicate_succ]
      unfold Host.toLowerCase at ih ⊢
      rw [List.flatMap_cons, ih]
      have hunit : host.lowerUnit dot = [dot] := by
        simp [Host.lowerUnit, dot]
      rfl
  · intro unit hunit
    rw [List.eq_of_mem_replicate hunit]
    decide

/-- A plain name: without separators, and neither `.` nor `..`. -/
structure IsPlainName (name : JsString) : Prop where
  ne_nil : name ≠ []
  slash : slash ∉ name
  backslash : backslash ∉ name
  colon : colon ∉ name
  proper : IsProperName name

variable {lower : JsString}

theorem isPlainName_of_lower (hlower : IsPlainName lower)
    (hname : host.normalizeLowercaseStringOrEmpty name = lower) :
    IsPlainName name where
  ne_nil := by
    rintro rfl
    exact hlower.ne_nil (hname ▸ rfl)
  slash := not_mem_of_normalizeLowercase host (by decide) (by decide) (by decide)
    (hname ▸ hlower.slash)
  backslash := not_mem_of_normalizeLowercase host (by decide) (by decide)
    (by decide) (hname ▸ hlower.backslash)
  colon := not_mem_of_normalizeLowercase host (by decide) (by decide) (by decide)
    (hname ▸ hlower.colon)
  proper := by
    constructor
    · rintro rfl
      exact hlower.proper.1 (hname ▸ normalizeLowercase_dots host 1)
    · rintro rfl
      exact hlower.proper.2 (hname ▸ normalizeLowercase_dots host 2)

/-! ## The name that an executable resolves to -/

def tilde : JsString := [0x7E]

theorem hasPathSeparator_eq_false :
    hasPathSeparator path = false ↔ slash ∉ path ∧ backslash ∉ path := by
  simp [hasPathSeparator]

theorem basename_append_name (dir : JsString) {name after : JsString}
    (hne : name ≠ []) (hname : slash ∉ name)
    (hafter : ∀ unit ∈ after, unit = slash) :
    ∃ first, basename (dir ++ (name ++ after)) = first ++ name := by
  rcases exists_last_name dir with
    hall | ⟨before, last, after', rfl, hlast, hslash, hafter', hbefore⟩
  · refine ⟨[], basename_last_name hne hname hafter ?_⟩
    rcases List.eq_nil_or_concat dir with hnil | ⟨init, unit, rfl⟩
    · exact .inl hnil
    · right
      obtain rfl := hall unit (by simp)
      exact ⟨init, by simp⟩
  · rcases List.eq_nil_or_concat after' with rfl | ⟨init, unit, rfl⟩
    · refine ⟨last, ?_⟩
      have hjoined := @basename_last_name _ (last ++ name) _ (by simp [hne])
        (by simp [hslash, hname]) hafter hbefore
      simpa using hjoined
    · obtain rfl := hafter' unit (by simp)
      refine ⟨[], basename_last_name hne hname hafter (.inr ?_)⟩
      exact ⟨before ++ (last ++ init), by simp⟩

theorem basename_expandHomePrefix {home : Option JsString} {raw name : JsString}
    (hname : backslash ∉ name)
    (hbasename : basename (expandHomePrefix home raw) = name) :
    basename raw = tilde ∨ basename raw = name := by
  unfold expandHomePrefix at hbasename
  split at hbasename
  next rest dir =>
      split_ifs at hbasename with hhead
      · rcases exists_last_name rest with
          hall | ⟨before, last, after, rfl, hlast, hslash, hafter, hbefore⟩
        · left
          exact @basename_last_name [] tilde _ (by decide) (by decide) hall (.inl rfl)
        · rcases hbefore with rfl | ⟨init, rfl⟩
          · -- the separator after the `~` is a backslash, which stays in the name
            cases last with
            | nil => exact absurd rfl hlast
            | cons first last =>
              have hseparator : first = slash ∨ first = backslash := by
                simpa using hhead
              have hfirst : first = backslash := by
                rcases hseparator with rfl | hbackslash
                · simp at hslash
                · exact hbackslash
              obtain ⟨start, hstart⟩ := basename_append_name dir hlast hslash hafter
              rw [List.nil_append, hstart] at hbasename
              have hmem : backslash ∈ name := by
                rw [← hbasename, hfirst]
                simp
              exact absurd hmem hname
          · right
            have hlastName : ∀ start : JsString,
                basename (start ++ (init ++ [slash] ++ (last ++ after))) = last := by
              intro start
              rw [← List.append_assoc]
              apply basename_last_name hlast hslash hafter
              exact .inr ⟨start ++ init, by simp⟩
            rw [hlastName dir] at hbasename
            rw [← hbasename]
            exact hlastName tilde
      · exact .inr hbasename
  next => exact .inr hbasename

theorem basename_eq_self {name : JsString} (hne : name ≠ [])
    (hname : slash ∉ name) : basename name = name := by
  have hlast := @basename_last_name [] _ [] hne hname (by simp) (.inl rfl)
  simpa using hlast

theorem components_eq_singleton (hne : name ≠ [])
    (hname : slash ∉ name) : components isSlash name = [name] := by
  apply components_of_forall_not hne
  intro unit hunit
  have hother : unit ≠ slash := fun heq => hname (heq ▸ hunit)
  simpa [isSlash] using hother

theorem isProperName_or (name : JsString) : IsProperName name ∨ name = js "." ∨ name = js ".." := by
  by_cases hdot : name = js "."
  · exact .inr (.inl hdot)
  · by_cases hup : name = js ".."
    · exact .inr (.inr hup)
    · exact .inl ⟨hdot, hup⟩

variable {cwd : Option JsString}

theorem candidate_cases {candidate : JsString}
    (hcandidate : resolveExecutablePathCandidate host raw cwd false = some candidate) :
    candidate = expandHomePrefix host.home raw ∨
      hasPathSeparator (expandHomePrefix host.home raw) = true ∧
        isAbsolute (expandHomePrefix host.home raw) = false ∧
        candidate = resolvePath host (baseDir host cwd) (expandHomePrefix host.home raw) := by
  unfold resolveExecutablePathCandidate at hcandidate
  generalize expandHomePrefix host.home raw = expanded at hcandidate ⊢
  cases hseparator : hasPathSeparator expanded with
  | false =>
    left
    simpa [hseparator] using hcandidate.symm
  | true =>
    cases habsolute : isAbsolute expanded with
    | true =>
      left
      simpa [hseparator, habsolute] using hcandidate.symm
    | false =>
      right
      refine ⟨rfl, rfl, ?_⟩
      simpa [hseparator, habsolute] using hcandidate.symm

theorem basename_of_resolved (hname : IsPlainName name)
    (hresolved : resolveExecutablePath host raw cwd = some path)
    (hbasename : basename path = name) :
    basename raw ∈ [tilde, js ".", js ".."] ∨ basename raw = name := by
  -- the last name of the text with its home directory decides
  have hexpanded : ∀ last, basename (expandHomePrefix host.home raw) = last →
      (last = name ∨ last = js "." ∨ last = js "..") →
      basename raw ∈ [tilde, js ".", js ".."] ∨ basename raw = name := by
    intro last hlast hcases
    have hbackslash : backslash ∉ last := by
      rcases hcases with rfl | rfl | rfl
      · exact hname.backslash
      · decide
      · decide
    rcases basename_expandHomePrefix hbackslash hlast with htilde | hraw
    · left
      simp [htilde]
    · rcases hcases with rfl | rfl | rfl
      · exact .inr hraw
      · left
        simp [hraw]
      · left
        simp [hraw]
  unfold resolveExecutablePath at hresolved
  split at hresolved
  next => simp at hresolved
  next candidate hcandidate =>
      rcases candidate_cases host hcandidate with
        rfl | ⟨hseparator, habsolute, rfl⟩
      · split_ifs at hresolved with hnil hseparator hfile
        · cases hresolved
          exact hexpanded name hbasename (.inl rfl)
        · -- a name that is looked up
          obtain ⟨hslash, -⟩ := hasPathSeparator_eq_false.mp (by simpa using hseparator)
          have hself := basename_eq_self hnil hslash
          rcases isProperName_or (expandHomePrefix host.home raw) with
            hproper | hspecial
          · have hmem := List.mem_of_find?_eq_some hresolved
            obtain ⟨entry, -, rfl⟩ := List.mem_map.mp hmem
            rw [basename_joinPath hproper (components_eq_singleton hnil hslash)] at hbasename
            exact hexpanded _ hself (.inl hbasename)
          · exact hexpanded _ hself (.inr hspecial)
      · -- a relative path; the working directory comes in front of it
        have hpath : path = resolvePath host (baseDir host cwd)
            (expandHomePrefix host.home raw) := by
          have hslash : hasPathSeparator (resolvePath host (baseDir host cwd)
              (expandHomePrefix host.home raw)) = true := by
            simp [hasPathSeparator, resolvePath]
          have hne : resolvePath host (baseDir host cwd) (expandHomePrefix host.home raw) ≠ [] := by
            simp [resolvePath]
          split_ifs at hresolved
          exact (Option.some.inj hresolved).symm
        rcases exists_last_name (expandHomePrefix host.home raw) with
          hall | ⟨before, last, after, hexpand, hlast, hslash, hafter, hbefore⟩
        · exfalso
          generalize expandHomePrefix host.home raw = expanded at *
          cases expanded with
          | nil => simp [hasPathSeparator] at hseparator
          | cons first rest =>
            obtain rfl := hall first List.mem_cons_self
            simp [isAbsolute] at habsolute
        · have hlastName : basename (expandHomePrefix host.home raw) = last := by
            rw [hexpand]
            exact basename_last_name hlast hslash hafter hbefore
          rcases isProperName_or last with hproper | hspecial
          · obtain ⟨others, hcomponents⟩ := components_eq_of_basenameBy hlastName hlast
            rw [hpath, basename_resolvePath host hproper hcomponents] at hbasename
            exact hexpanded last hlastName (.inl hbasename)
          · exact hexpanded last hlastName (.inr hspecial)

/-! ## Wrappers have other names -/

theorem normalizeExecutableToken_of_resolution (hlower : IsPlainName lower)
    (hname : host.normalizeLowercaseStringOrEmpty
      (buildExecutableResolution host raw cwd).executableName = lower) :
    ∃ name ∈ [lower, tilde, js ".", js ".."],
      normalizeExecutableToken host raw = stripWindowsExecutableSuffix name := by
  have htoken : ∀ last name, basename raw = last →
      host.normalizeLowercaseStringOrEmpty last = name → last ≠ [] →
      backslash ∉ last → colon ∉ last →
      normalizeExecutableToken host raw = stripWindowsExecutableSuffix name := by
    intro last name hlast hlowered hne hbackslash hcolon
    unfold normalizeExecutableToken
    rw [basenameLower_eq host hlast hne hbackslash hcolon, hlowered]
  unfold buildExecutableResolution at hname
  cases hresolved : resolveExecutablePath host raw cwd with
  | none =>
    rw [hresolved] at hname
    have hplain := isPlainName_of_lower host hlower hname
    exact ⟨lower, by simp, htoken raw lower
      (basename_eq_self hplain.ne_nil hplain.slash) hname hplain.ne_nil
      hplain.backslash hplain.colon⟩
  | some path =>
    rw [hresolved] at hname
    have hplain := isPlainName_of_lower host hlower hname
    rcases basename_of_resolved host hplain hresolved rfl with hspecial | hraw
    · simp only [List.mem_cons, List.not_mem_nil, or_false] at hspecial
      rcases hspecial with hraw | hraw | hraw
      · exact ⟨tilde, by simp, htoken tilde tilde hraw
          (normalizeLowercase_single host (by decide) (by decide) (by decide))
          (by decide) (by decide) (by decide)⟩
      · exact ⟨js ".", by simp, htoken _ _ hraw (normalizeLowercase_dots host 1)
          (by decide) (by decide) (by decide)⟩
      · exact ⟨js "..", by simp, htoken _ _ hraw
          (normalizeLowercase_dots host 2) (by decide) (by decide) (by decide)⟩
    · exact ⟨lower, by simp, htoken _ lower hraw hname hplain.ne_nil hplain.backslash hplain.colon⟩

def wrapperNames : List String :=
  ["arch", "caffeinate", "chrt", "doas", "env", "ionice", "nice", "nohup",
    "sandbox-exec", "script", "setsid", "stdbuf", "sudo", "taskset", "time",
    "timeout", "xcrun", "busybox", "toybox"]

def IsWrapper (argv : Argv) : Prop :=
  ∃ token0, firstToken argv = some token0 ∧
    isAnyOf (normalizeExecutableToken host token0) wrapperNames = true

variable {argv : Argv}

theorem isWrapper_of_dispatch
    (hwrapper : unwrapKnownDispatchWrapperInvocation host argv ≠ .notWrapper) :
    IsWrapper host argv := by
  unfold unwrapKnownDispatchWrapperInvocation at hwrapper
  split at hwrapper
  next => exact absurd rfl hwrapper
  next token0 htoken =>
      refine ⟨token0, htoken, ?_⟩
      cases hspec : dispatchWrapperSpec host (normalizeExecutableToken host token0) with
      | none =>
        simp [hspec] at hwrapper
      | some spec =>
        have hmem := List.mem_of_find?_eq_some hspec
        have hname := List.find?_some hspec
        have hnames : spec.name ∈ wrapperNames := by
          have hmap := List.mem_map_of_mem (f := DispatchWrapperSpec.name) hmem
          exact List.mem_append_left ["busybox", "toybox"] hmap
        exact List.any_eq_true.mpr ⟨spec.name, hnames, hname⟩

theorem isWrapper_of_multiplexer
    (hwrapper : unwrapKnownShellMultiplexerInvocation host argv ≠ .notWrapper) :
    IsWrapper host argv := by
  unfold unwrapKnownShellMultiplexerInvocation at hwrapper
  split at hwrapper
  next => exact absurd rfl hwrapper
  next token0 htoken =>
      refine ⟨token0, htoken, ?_⟩
      by_cases hname : isAnyOf (normalizeExecutableToken host token0) ["busybox", "toybox"] = true
      · obtain ⟨name, hmem, hequal⟩ := List.any_eq_true.mp hname
        exact List.any_eq_true.mpr ⟨name, by
          simp only [List.mem_cons, List.not_mem_nil, or_false] at hmem
          rcases hmem with rfl | rfl <;> simp [wrapperNames], hequal⟩
      · simp [hname] at hwrapper

theorem dispatchTrustLoop_blocked (depth : ℕ) (wrappers : List JsString) (current : Argv) :
    (dispatchTrustLoop host depth wrappers current).policyBlocked = true →
      IsWrapper host (dispatchTrustLoop host depth wrappers current).argv := by
  induction depth generalizing wrappers current with
  | zero => simp [dispatchTrustLoop]
  | succ depth ih =>
    rw [dispatchTrustLoop]
    cases hunwrap : unwrapKnownDispatchWrapperInvocation host current with
    | notWrapper => simp
    | blocked wrapper =>
      intro _
      exact isWrapper_of_dispatch host (by simp [hunwrap])
    | unwrapped wrapper argv =>
      dsimp only
      split_ifs
      · simp
      · intro _
        exact isWrapper_of_dispatch host (by simp [hunwrap])
      · exact ih _ _

theorem dispatchPlan_blocked (maxDepth : ℕ) (argv : Argv) :
    (resolveDispatchWrapperTrustPlan host argv maxDepth).policyBlocked = true →
      IsWrapper host (resolveDispatchWrapperTrustPlan host argv maxDepth).argv := by
  simp only [resolveDispatchWrapperTrustPlan]
  split_ifs with hloop hoverflow
  · exact dispatchTrustLoop_blocked host maxDepth [] argv
  · intro _
    exact isWrapper_of_dispatch host hoverflow.2
  · exact dispatchTrustLoop_blocked host maxDepth [] argv

theorem finishTrustPlan_blocked (current policyArgv : Argv) (wrapperCount maxDepth : ℕ) :
    (finishTrustPlan host current policyArgv wrapperCount maxDepth).policyBlocked = true →
      IsWrapper host (finishTrustPlan host current policyArgv wrapperCount maxDepth).argv := by
  unfold finishTrustPlan
  split_ifs with hoverflow
  · intro _
    rcases hoverflow.2 with hdispatch | hmultiplexer
    · exact isWrapper_of_dispatch host hdispatch
    · exact isWrapper_of_multiplexer host hmultiplexer
  · simp

theorem trustPlanLoop_blocked (maxDepth depth : ℕ) (current policyArgv : Argv)
    (sawShellMultiplexer : Bool) (wrapperCount : ℕ) :
    (trustPlanLoop host maxDepth depth current policyArgv sawShellMultiplexer
        wrapperCount).policyBlocked = true →
      IsWrapper host (trustPlanLoop host maxDepth depth current policyArgv
        sawShellMultiplexer wrapperCount).argv := by
  induction depth generalizing current policyArgv sawShellMultiplexer wrapperCount with
  | zero => exact finishTrustPlan_blocked host _ _ _ _
  | succ depth ih =>
    simp only [trustPlanLoop]
    by_cases hdispatch : (resolveDispatchWrapperTrustPlan host current
        (maxDepth - wrapperCount)).policyBlocked = true
    · simp only [hdispatch, if_true]
      intro _
      exact dispatchPlan_blocked host _ _ hdispatch
    · simp only [hdispatch]
      by_cases hwrappers : (resolveDispatchWrapperTrustPlan host current
          (maxDepth - wrapperCount)).wrappers ≠ []
      · rw [if_neg (by simp), if_pos hwrappers]
        split
        next => exact finishTrustPlan_blocked host _ _ _ _
        next => exact ih _ _ _ _
      · rw [if_neg (by simp), if_neg hwrappers]
        cases hunwrap : unwrapKnownShellMultiplexerInvocation host current with
        | notWrapper => exact finishTrustPlan_blocked host _ _ _ _
        | blocked wrapper =>
          intro _
          exact isWrapper_of_multiplexer host (by simp [hunwrap])
        | unwrapped wrapper argv =>
          dsimp only
          split
          next => exact finishTrustPlan_blocked host _ _ _ _
          next => exact ih _ _ _ _

theorem not_policyBlocked_of_name {resolution : CommandResolution}
    (hresolution : resolveCommandResolutionFromArgv host argv cwd = some resolution)
    (hlower : lower ∈ [js "cat", js "printf"])
    (hname : host.normalizeLowercaseStringOrEmpty resolution.execution.executableName = lower) :
    resolution.policyBlocked = false := by
  obtain ⟨raw, hraw, rfl⟩ := Option.map_eq_some_iff.mp hresolution
  by_contra hblocked
  have hplan : (resolveExecWrapperTrustPlan host argv).policyBlocked = true := by
    simpa using hblocked
  obtain ⟨token0, htoken, hwrapper⟩ := trustPlanLoop_blocked host _ _ _ _ _ _ hplan
  have hsame : token0 = raw := by
    have hboth := htoken.symm.trans hraw
    exact Option.some.inj hboth
  subst token0
  have hplain : IsPlainName lower := by
    simp only [List.mem_cons, List.not_mem_nil, or_false] at hlower
    rcases hlower with rfl | rfl
    · exact ⟨by decide, by decide, by decide, by decide, by decide, by decide⟩
    · exact ⟨by decide, by decide, by decide, by decide, by decide, by decide⟩
  obtain ⟨name, hmem, hequal⟩ := normalizeExecutableToken_of_resolution host hplain hname
  rw [hequal] at hwrapper
  have hnone : ∀ name ∈ [js "cat", js "printf", tilde, js ".", js ".."],
      isAnyOf (stripWindowsExecutableSuffix name) wrapperNames = false := by
    decide
  have hlisted : name ∈ [js "cat", js "printf", tilde, js ".", js ".."] := by
    simp only [List.mem_cons, List.not_mem_nil, or_false] at hmem hlower ⊢
    rcases hmem with rfl | hspecial
    · rcases hlower with rfl | rfl
      · exact .inl rfl
      · exact .inr (.inl rfl)
    · exact .inr (.inr hspecial)
  rw [hnone name hlisted] at hwrapper
  exact absurd hwrapper (by simp)

end LittleBaby.Exec
