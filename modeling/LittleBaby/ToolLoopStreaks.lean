import LittleBaby.ToolLoopDetection

/-!
# What the streaks count

A run of equal records at the end of the window is counted in full, and so is an
alternation, whose evidence then covers every record of it.
-/

namespace LittleBaby.ToolLoops

open JsString

theorem truthy_some {text : JsString} (htext : text ≠ []) : truthy (some text) = true := by
  simp [truthy, htext]

def IsRepeat (toolName argsHash resultHash : JsString) (record : ToolCallRecord) : Prop :=
  record.toolName = toolName ∧ record.argsHash = argsHash ∧ record.resultHash = some resultHash

section Repeats

variable {toolName argsHash resultHash : JsString}

theorem count_le_noProgressLoop (found : NoProgressStreak) (history : List ToolCallRecord)
    (hfound : truthy found.latestResultHash = true) :
    found.count ≤ (noProgressLoop toolName argsHash found history).count := by
  induction history generalizing found with
  | nil => exact le_rfl
  | cons record earlier ih =>
    rw [noProgressLoop]
    split_ifs with hother hmissing hfresh hchanged
    · exact ih found hfound
    · exact ih found hfound
    · simp [hfound] at hfresh
    · exact le_rfl
    · have hlater : found.count + 1 ≤ (noProgressLoop toolName argsHash
          { found with count := found.count + 1 } earlier).count :=
        ih { found with count := found.count + 1 } hfound
      omega

theorem length_le_noProgressLoop (hresult : resultHash ≠ []) (count : ℕ)
    {repeated : List ToolCallRecord}
    (hrepeated : ∀ record ∈ repeated, IsRepeat toolName argsHash resultHash record)
    (earlier : List ToolCallRecord) :
    count + repeated.length ≤ (noProgressLoop toolName argsHash ⟨count, some resultHash⟩
        (repeated ++ earlier)).count := by
  induction repeated generalizing count with
  | nil =>
    exact count_le_noProgressLoop ⟨count, some resultHash⟩ earlier (truthy_some hresult)
  | cons record rest ih =>
    obtain ⟨hname, hargs, hhash⟩ := hrepeated record (by simp)
    have hlater := ih (count + 1) (fun other hmem => hrepeated other (by simp [hmem]))
    rw [List.cons_append, noProgressLoop]
    simp only [hname, hargs, hhash, ne_eq, not_true, or_self, if_false,
      truthy_some hresult, Bool.not_true, Bool.false_eq_true, List.length_cons]
    omega

theorem length_le_getNoProgressStreak (hresult : resultHash ≠ [])
    {history repeated earlier : List ToolCallRecord}
    (hhistory : history.reverse = repeated ++ earlier)
    (hrepeated : ∀ record ∈ repeated, IsRepeat toolName argsHash resultHash record) :
    repeated.length ≤ (getNoProgressStreak history toolName argsHash).count := by
  unfold getNoProgressStreak
  rw [hhistory]
  cases repeated with
  | nil => exact Nat.zero_le _
  | cons record rest =>
    obtain ⟨hname, hargs, hhash⟩ := hrepeated record (by simp)
    have hlater : 1 + rest.length ≤ (noProgressLoop toolName argsHash
        ⟨1, some resultHash⟩ (rest ++ earlier)).count :=
      length_le_noProgressLoop hresult 1
        (fun other hmem => hrepeated other (by simp [hmem])) earlier
    rw [List.cons_append, noProgressLoop]
    simp only [hname, hargs, hhash, ne_eq, not_true, or_self, if_false,
      truthy_some hresult, Bool.not_true, Bool.false_eq_true, List.length_cons]
    have hnone : truthy (none : Option JsString) = false := rfl
    simp [hnone]
    omega

end Repeats

variable {records : List ToolCallRecord}

theorem le_alternatingTail {signatureA signatureB : JsString} {count : ℕ}
    (hcount : count ≤ records.length)
    (halternate : ∀ position record, position < count → records[position]? = some record →
        record.argsHash = if position % 2 = 0 then signatureA else signatureB) :
    count ≤ alternatingTail signatureA signatureB records := by
  induction count generalizing signatureA signatureB records with
  | zero => exact Nat.zero_le _
  | succ count ih =>
    cases records with
    | nil => simp at hcount
    | cons record earlier =>
      have hfirst := halternate 0 record (by omega) rfl
      simp only [Nat.zero_mod, if_true] at hfirst
      rw [alternatingTail, if_neg (not_not.mpr hfirst)]
      simp at hcount
      apply Nat.succ_le_succ
      apply ih hcount
      intro position other hposition hother
      have hnext := halternate (position + 1) other (by omega) hother
      rw [hnext]
      rcases Nat.mod_two_eq_zero_or_one position with heven | hodd
      · rw [if_neg (by omega), if_pos heven]
      · rw [if_pos (by omega), if_neg (by omega)]

/-- Where a record has the signature of the one two before it and another lies between,
the two have the same result. -/
def SteadyNext (record : ToolCallRecord) : List ToolCallRecord → Prop
  | between :: before :: _ =>
    record.argsHash = before.argsHash → between.argsHash ≠ record.argsHash →
      record.resultHash = before.resultHash
  | _ => True

def Steady : List ToolCallRecord → Prop
  | [] => True
  | record :: earlier => SteadyNext record earlier ∧ Steady earlier

theorem Steady.take (hsteady : Steady records) (size : ℕ) : Steady (records.take size) := by
  induction size generalizing records with
  | zero => trivial
  | succ size ih =>
    cases records with
    | nil => trivial
    | cons record earlier =>
      constructor
      · match size, earlier, hsteady.1 with
        | 0, _, _ => trivial
        | 1, [], _ => trivial
        | 1, _ :: _, _ => trivial
        | _ + 2, [], _ => trivial
        | _ + 2, [_], _ => trivial
        | _ + 2, _ :: _ :: _, hnext => exact hnext
      · exact ih hsteady.2

def OnOneSide (sideA sideB : JsString × JsString) (record : ToolCallRecord) : Prop :=
  (record.argsHash = sideA.1 ∧ record.resultHash = some sideA.2) ∨
    (record.argsHash = sideB.1 ∧ record.resultHash = some sideB.2)

theorem onOneSide_of_steady {sideA sideB : JsString × JsString}
    (hsides : sideA.1 ≠ sideB.1) {first second : ToolCallRecord}
    {earlier : List ToolCallRecord} (hsteady : Steady (first :: second :: earlier))
    (hfirst : first.argsHash = sideA.1 ∧ first.resultHash = some sideA.2)
    (hsecond : second.argsHash = sideB.1 ∧ second.resultHash = some sideB.2) :
    ∀ record ∈ (first :: second :: earlier).take
        (alternatingTail sideA.1 sideB.1 (first :: second :: earlier)),
      OnOneSide sideA sideB record := by
  induction earlier generalizing first second sideA sideB with
  | nil =>
    intro record hrecord
    have hmem := List.mem_of_mem_take hrecord
    rcases List.mem_cons.mp hmem with rfl | hmem
    · exact .inl hfirst
    · rw [List.mem_singleton.mp hmem]
      exact .inr hsecond
  | cons third rest ih =>
    rw [alternatingTail, if_neg (not_not.mpr hfirst.1), List.take_succ_cons]
    intro record hrecord
    rcases List.mem_cons.mp hrecord with rfl | hrecord
    · exact .inl hfirst
    · by_cases hthird : third.argsHash = sideA.1
      · have hsame := hsteady.1 (hfirst.1.trans hthird.symm)
          (by rw [hsecond.1, hfirst.1]; exact hsides.symm)
        have hrest := ih hsides.symm hsteady.2 hsecond ⟨hthird, hsame ▸ hfirst.2⟩ record hrecord
        exact hrest.symm
      · rw [alternatingTail, if_neg (not_not.mpr hsecond.1), alternatingTail,
          if_pos hthird] at hrecord
        simp only [List.take_succ_cons, List.take_zero, List.mem_singleton] at hrecord
        rw [hrecord]
        exact .inr hsecond

section Evidence

variable {sideA sideB : JsString × JsString}

section

variable (hsides : sideA.1 ≠ sideB.1) (hresultA : sideA.2 ≠ []) (hresultB : sideB.2 ≠ [])
include hsides hresultA hresultB

theorem evidenceLoop_of_sides (hrecords : ∀ record ∈ records, OnOneSide sideA sideB record)
    (found : PingPongEvidence) (hfound : found.noProgressEvidence = true)
    (hfirstA : found.firstHashA = none ∨ found.firstHashA = some sideA.2)
    (hfirstB : found.firstHashB = none ∨ found.firstHashB = some sideB.2) :
    let evidence := evidenceLoop sideA.1 sideB.1 found records
    evidence.noProgressEvidence = true ∧
      ((found.firstHashA = some sideA.2 ∨ ∃ record ∈ records, record.argsHash = sideA.1) →
        evidence.firstHashA = some sideA.2) ∧
      ((found.firstHashB = some sideB.2 ∨ ∃ record ∈ records, record.argsHash = sideB.1) →
        evidence.firstHashB = some sideB.2) := by
  have hnone : truthy (none : Option JsString) = false := rfl
  induction records generalizing found with
  | nil => simp [evidenceLoop, hfound]
  | cons record later ih =>
    have hlater : ∀ other ∈ later, OnOneSide sideA sideB other :=
      fun other hmem => hrecords other (by simp [hmem])
    rcases hrecords record (by simp) with ⟨hargs, hhash⟩ | ⟨hargs, hhash⟩
    · simp only [evidenceLoop, hargs, hhash, truthy_some hresultA, Bool.not_true,
        Bool.false_eq_true, if_false, if_true]
      rcases hfirstA with hempty | hkept
      · have hrest := ih hlater { found with firstHashA := some sideA.2 } hfound (.inr rfl) hfirstB
        simp only [hempty, hnone, Bool.not_false, if_true]
        refine ⟨hrest.1, fun _ => hrest.2.1 (.inl rfl), fun hseen => hrest.2.2 ?_⟩
        simpa [hargs, hsides] using hseen
      · have hrest := ih hlater found hfound (.inr hkept) hfirstB
        simp only [hkept, truthy_some hresultA, Bool.not_true, Bool.false_eq_true,
          if_false, ne_eq, not_true]
        refine ⟨hrest.1, fun _ => hrest.2.1 (.inl hkept), fun hseen => hrest.2.2 ?_⟩
        simpa [hargs, hsides] using hseen
    · simp only [evidenceLoop, hargs, hhash, truthy_some hresultB, Bool.not_true,
        Bool.false_eq_true, if_false, hsides.symm, if_true]
      rcases hfirstB with hempty | hkept
      · have hrest := ih hlater { found with firstHashB := some sideB.2 } hfound hfirstA (.inr rfl)
        simp only [hempty, hnone, Bool.not_false, if_true]
        refine ⟨hrest.1, fun hseen => hrest.2.1 ?_, fun _ => hrest.2.2 (.inl rfl)⟩
        simpa [hargs, hsides.symm] using hseen
      · have hrest := ih hlater found hfound hfirstA (.inr hkept)
        simp only [hkept, truthy_some hresultB, Bool.not_true, Bool.false_eq_true,
          if_false, ne_eq, not_true]
        refine ⟨hrest.1, fun hseen => hrest.2.1 ?_, fun _ => hrest.2.2 (.inl hkept)⟩
        simpa [hargs, hsides.symm] using hseen

theorem getPingPongStreak_of_sides {history : List ToolCallRecord}
    {last other : ToolCallRecord} {earlier : List ToolCallRecord}
    (hhistory : history.reverse = last :: other :: earlier)
    (hlast : last.argsHash = sideA.1) (hother : other.argsHash = sideB.1)
    (hsignature : sideB.1 ≠ []) (hname : other.toolName ≠ [])
    (htail : ∀ record ∈ history.reverse.take (alternatingTail sideA.1 sideB.1 history.reverse),
      OnOneSide sideA sideB record) :
    (getPingPongStreak history sideB.1).count =
        alternatingTail sideA.1 sideB.1 history.reverse + 1 ∧
      (getPingPongStreak history sideB.1).noProgressEvidence = true := by
  have hcount : 2 ≤ alternatingTail sideA.1 sideB.1 history.reverse := by
    rw [hhistory, alternatingTail, if_neg (not_not.mpr hlast), alternatingTail,
      if_neg (not_not.mpr hother)]
    omega
  have hfind : (other :: earlier).find? (fun call => call.argsHash ≠ last.argsHash) =
      some other := by
    rw [List.find?_cons_of_pos]
    simpa [hlast, hother] using hsides.symm
  have hrecords : history.drop (history.length - alternatingTail sideA.1 sideB.1 history.reverse) =
      (history.reverse.take (alternatingTail sideA.1 sideB.1 history.reverse)).reverse := by
    rw [List.take_reverse, List.reverse_reverse]
  have hmem : ∀ record ∈ [last, other],
      record ∈ history.reverse.take (alternatingTail sideA.1 sideB.1 history.reverse) := by
    intro record hrecord
    apply List.mem_of_mem_take (i := 2)
    rw [List.take_take, min_eq_left hcount, hhistory]
    exact hrecord
  obtain ⟨hevidence, hkeptA, hkeptB⟩ := evidenceLoop_of_sides hsides hresultA hresultB
    (fun record hrecord => htail record (List.mem_reverse.mp hrecord)) {} rfl
    (.inl rfl) (.inl rfl)
  have hfirstA := hkeptA (.inr ⟨last, List.mem_reverse.mpr (hmem last (by simp)), hlast⟩)
  have hfirstB := hkeptB (.inr ⟨other, List.mem_reverse.mpr (hmem other (by simp)), hother⟩)
  unfold getPingPongStreak
  rw [hhistory] at hcount hrecords hevidence hfirstA hfirstB ⊢
  simp only [hfind]
  simp only [hlast, hother, if_neg (not_lt.mpr hcount)]
  simp [hsignature, hname, hrecords, hevidence, hfirstA, hfirstB, truthy_some hresultA,
    truthy_some hresultB]

end

def sideAt (sideA sideB : JsString × JsString) (position : ℕ) : JsString × JsString :=
  if position % 2 = 0 then sideA else sideB

theorem pingPong_of_alternation {history : List ToolCallRecord} {count : ℕ}
    (hsides : sideA.1 ≠ sideB.1) (hresultA : sideA.2 ≠ []) (hresultB : sideB.2 ≠ [])
    (hsignature : sideB.1 ≠ []) (htwo : 2 ≤ count) (hcount : count ≤ history.length)
    (hrecords : ∀ position record, position < count → history.reverse[position]? = some record →
        record.toolName ≠ [] ∧ record.argsHash = (sideAt sideA sideB position).1 ∧
          record.resultHash = some (sideAt sideA sideB position).2)
    (hwhole : history.length ≤ count ∨ Steady history.reverse) :
    count + 1 ≤ (getPingPongStreak history sideB.1).count ∧
      (getPingPongStreak history sideB.1).noProgressEvidence = true := by
  have htail : count ≤ alternatingTail sideA.1 sideB.1 history.reverse := by
    apply le_alternatingTail (by rw [List.length_reverse]; exact hcount)
    intro position record hposition hrecord
    rw [(hrecords position record hposition hrecord).2.1, sideAt]
    split_ifs <;> rfl
  obtain ⟨last, other, earlier, hhistory⟩ :
      ∃ last other earlier, history.reverse = last :: other :: earlier := by
    have hlength : 2 ≤ history.reverse.length := by
      rw [List.length_reverse]
      omega
    match history.reverse, hlength with
    | last :: other :: earlier, _ => exact ⟨last, other, earlier, rfl⟩
  obtain ⟨-, hlast⟩ := hrecords 0 last (by omega) (by rw [hhistory]; rfl)
  obtain ⟨hname, hother⟩ := hrecords 1 other (by omega) (by rw [hhistory]; rfl)
  have honSides : ∀ record ∈ history.reverse.take
      (alternatingTail sideA.1 sideB.1 history.reverse), OnOneSide sideA sideB record := by
    rcases hwhole with hshort | hsteady
    · intro record hrecord
      obtain ⟨position, hlt, hposition⟩ := List.getElem_of_mem (List.mem_of_mem_take hrecord)
      rw [List.length_reverse] at hlt
      obtain ⟨-, hside⟩ := hrecords position record (by omega)
        (List.getElem?_eq_some_iff.mpr ⟨_, hposition⟩)
      rw [sideAt] at hside
      split_ifs at hside
      · exact .inl hside
      · exact .inr hside
    · rw [hhistory] at hsteady ⊢
      exact onOneSide_of_steady hsides hsteady hlast hother
  obtain ⟨hstreak, hevidence⟩ := getPingPongStreak_of_sides hsides hresultA hresultB
    hhistory hlast.1 hother.1 hsignature hname honSides
  exact ⟨by omega, hevidence⟩

end Evidence

end LittleBaby.ToolLoops
