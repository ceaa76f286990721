import LittleBaby.TextPieces

/-!
# Chunks of text

`chunkText` cuts a text at line ends and spaces outside parentheses.  The pieces
are trimmed, and a piece of white space only is dropped.
-/

namespace LittleBaby.TextChunking

open JsString TextPieces

variable (text : JsString)

def trimStart : JsString := text.dropWhile isSpace

def trimEnd : JsString := text.rdropWhile isSpace

structure Breakpoints where
  depth : ℕ := 0
  lastNewline : ℤ := -1
  lastWhitespace : ℤ := -1

def Breakpoints.scan (isAllowed : ℕ → Bool) (found : Breakpoints) (index : ℕ)
    (char : UInt16) : Breakpoints :=
  if !isAllowed index then found
  else if char = 0x28 then { found with depth := found.depth + 1 }
  else if char = 0x29 ∧ 0 < found.depth then { found with depth := found.depth - 1 }
  else if found.depth ≠ 0 then found
  else if char = 0x0A then { found with lastNewline := index }
  else if isSpace char then { found with lastWhitespace := index }
  else found

def Breakpoints.scanAll (isAllowed : ℕ → Bool) : Breakpoints → ℕ → JsString → Breakpoints
  | found, _, [] => found
  | found, index, char :: rest =>
    Breakpoints.scanAll isAllowed (found.scan isAllowed index char) (index + 1) rest

def scanParenAwareBreakpoints (start finish : ℕ) (isAllowed : ℕ → Bool) : Breakpoints :=
  Breakpoints.scanAll isAllowed {} start (slice text start finish)

def resolveBreakIndex (window : JsString) : ℤ :=
  let found := scanParenAwareBreakpoints window 0 window.length fun _ => true
  if 0 < found.lastNewline then found.lastNewline else found.lastWhitespace

section Cutting

variable (resolve : JsString → ℤ) (limit : ℕ)

variable (remaining : JsString)

def nextBreak : ℕ :=
  let candidateBreak := resolve (remaining.take limit)
  if 0 < candidateBreak ∧ candidateBreak ≤ limit then candidateBreak.toNat else limit

def remainingAfter (breakIdx : ℕ) : JsString :=
  let brokeOnSeparator := remaining[breakIdx]?.any isSpace
  let nextStart := min remaining.length (breakIdx + if brokeOnSeparator then 1 else 0)
  trimStart (remaining.drop nextStart)

theorem length_remainingAfter_le (breakIdx : ℕ) :
    (remainingAfter remaining breakIdx).length ≤ remaining.length - breakIdx := by
  unfold remainingAfter trimStart
  simp only
  have htrim := (List.dropWhile_sublist isSpace (l := remaining.drop (min remaining.length
      (breakIdx + if remaining[breakIdx]?.any isSpace = true then 1 else 0)))).length_le
  rw [List.length_drop] at htrim
  split_ifs at htrim ⊢ <;> omega

theorem nextBreak_pos (hlimit : 0 < limit) (remaining : JsString) :
    0 < nextBreak resolve limit remaining := by
  unfold nextBreak
  simp only
  split_ifs with hbreak
  · omega
  · exact hlimit

theorem nextBreak_le : nextBreak resolve limit remaining ≤ limit := by
  unfold nextBreak
  simp only
  split_ifs with hbreak
  · omega
  · exact le_rfl

def chunkRemaining (hlimit : 0 < limit) (remaining : JsString) : List JsString :=
  if _hlong : limit < remaining.length then
    let breakIdx := nextBreak resolve limit remaining
    let chunk := trimEnd (remaining.take breakIdx)
    let chunks := chunkRemaining hlimit (remainingAfter remaining breakIdx)
    if 0 < chunk.length then chunk :: chunks else chunks
  else if remaining.length = 0 then []
  else [remaining]
termination_by remaining.length
decreasing_by
  have hpos := nextBreak_pos resolve limit hlimit remaining
  have hle := length_remainingAfter_le remaining (nextBreak resolve limit remaining)
  omega

def chunkTextByBreakResolver (text : JsString) : List JsString :=
  if text = [] then []
  else if hlimit : limit = 0 then [text]
  else if text.length ≤ limit then [text]
  else chunkRemaining resolve limit (Nat.pos_of_ne_zero hlimit) text

end Cutting

def resolveChunkEarlyReturn (limit : ℕ) : Option (List JsString) :=
  if text = [] then some []
  else if limit = 0 then some [text]
  else if text.length ≤ limit then some [text]
  else none

def chunkText (limit : ℕ) : List JsString :=
  match resolveChunkEarlyReturn text limit with
  | some early => early
  | none => chunkTextByBreakResolver resolveBreakIndex limit text

theorem all_isSpace_of_trimEnd : ∃ spaces, text = trimEnd text ++ spaces ∧
      ∀ unit ∈ spaces, isSpace unit = true := by
  refine ⟨text.rtakeWhile isSpace, ?_, fun _ => List.mem_rtakeWhile_imp⟩
  exact List.rdropWhile_append_rtakeWhile.symm

theorem all_isSpace_of_trimStart : ∃ spaces, text = spaces ++ trimStart text ∧
      ∀ unit ∈ spaces, isSpace unit = true :=
  ⟨text.takeWhile isSpace, (List.takeWhile_append_dropWhile ..).symm,
    fun _ => List.mem_takeWhile_imp⟩

theorem drop_min_length (count : ℕ) : text.drop (min text.length count) = text.drop count := by
  rcases le_total text.length count with hle | hle
  · rw [min_eq_left hle, List.drop_length, List.drop_eq_nil_of_le hle]
  · rw [min_eq_right hle]

theorem drop_eq_remainingAfter (remaining : JsString) (breakIdx : ℕ) :
    ∃ spaces, remaining.drop breakIdx = spaces ++ remainingAfter remaining breakIdx ∧
      ∀ unit ∈ spaces, isSpace unit = true := by
  unfold remainingAfter
  simp only [drop_min_length]
  split_ifs with hseparator
  · obtain ⟨unit, hunit, hspace⟩ := (Option.any_eq_true _ _).mp hseparator
    obtain ⟨hlt, hget⟩ := List.getElem?_eq_some_iff.mp hunit
    obtain ⟨spaces, hspaces, hall⟩ := all_isSpace_of_trimStart (remaining.drop (breakIdx + 1))
    refine ⟨unit :: spaces, ?_, ?_⟩
    · rw [List.cons_append, ← hspaces, ← hget, List.drop_eq_getElem_cons hlt]
    · simpa [hspace] using hall
  · rw [Nat.add_zero]
    exact all_isSpace_of_trimStart _

theorem trimStart_startsOutside : StartsOutside isSpace (trimStart text) := by
  intro unit hunit
  have hhead := List.head?_dropWhile_not isSpace text
  unfold trimStart at hunit
  rw [hunit] at hhead
  exact hhead

theorem remainingAfter_startsOutside (remaining : JsString) (breakIdx : ℕ) :
    StartsOutside isSpace (remainingAfter remaining breakIdx) :=
  trimStart_startsOutside _

theorem trimEnd_cons {first : UInt16} (hfirst : isSpace first = false)
    (rest : JsString) : ∃ piece, trimEnd (first :: rest) = first :: piece := by
  unfold trimEnd
  cases htrim : (first :: rest).rdropWhile isSpace with
  | nil =>
    have hall := List.rdropWhile_eq_nil_iff.mp htrim first (by simp)
    rw [hfirst] at hall
    contradiction
  | cons unit piece =>
    have hprefix := List.rdropWhile_prefix isSpace (first :: rest)
    rw [htrim] at hprefix
    rw [(List.cons_prefix_cons.mp hprefix).1]
    exact ⟨piece, rfl⟩

def firstPiece (resolve : JsString → ℤ) (limit : ℕ) (text : JsString) : JsString :=
  trimEnd (text.take (nextBreak resolve limit text))

def nextRemaining (resolve : JsString → ℤ) (limit : ℕ) (text : JsString) : JsString :=
  remainingAfter text (nextBreak resolve limit text)

section Spec

variable {resolve : JsString → ℤ} {limit : ℕ}

theorem length_firstPiece_le (remaining : JsString) :
    (firstPiece resolve limit remaining).length ≤ limit := by
  have htrim := (List.rdropWhile_prefix isSpace
    (remaining.take (nextBreak resolve limit remaining))).length_le
  have hbreak := nextBreak_le resolve limit remaining
  rw [List.length_take] at htrim
  unfold firstPiece trimEnd
  omega

theorem eq_firstPiece_append (resolve : JsString → ℤ) (limit : ℕ) (remaining : JsString) :
    ∃ spaces, remaining = firstPiece resolve limit remaining ++
        (spaces ++ nextRemaining resolve limit remaining) ∧
      ∀ unit ∈ spaces, isSpace unit = true := by
  unfold firstPiece nextRemaining
  obtain ⟨trimmed, htrimmed, htrimmedSpace⟩ :=
    all_isSpace_of_trimEnd (remaining.take (nextBreak resolve limit remaining))
  obtain ⟨skipped, hskipped, hskippedSpace⟩ :=
    drop_eq_remainingAfter remaining (nextBreak resolve limit remaining)
  refine ⟨trimmed ++ skipped, ?_, ?_⟩
  · rw [List.append_assoc, ← hskipped, ← List.append_assoc, ← htrimmed, List.take_append_drop]
  · intro unit hunit
    rcases List.mem_append.mp hunit with hunit | hunit
    · exact htrimmedSpace unit hunit
    · exact hskippedSpace unit hunit

variable (hlimit : 0 < limit)

variable {remaining : JsString}

theorem chunkRemaining_of_lt (hlong : limit < remaining.length) :
    chunkRemaining resolve limit hlimit remaining =
      if 0 < (firstPiece resolve limit remaining).length then
        firstPiece resolve limit remaining ::
          chunkRemaining resolve limit hlimit (nextRemaining resolve limit remaining)
      else chunkRemaining resolve limit hlimit (nextRemaining resolve limit remaining) := by
  rw [chunkRemaining, dif_pos hlong]
  rfl

theorem chunkRemaining_of_le (hshort : remaining.length ≤ limit) :
    chunkRemaining resolve limit hlimit remaining =
      if remaining.length = 0 then [] else [remaining] := by
  rw [chunkRemaining, dif_neg (by omega)]

include hlimit in
theorem length_nextRemaining_lt (resolve : JsString → ℤ) (hlong : limit < remaining.length) :
    (nextRemaining resolve limit remaining).length < remaining.length := by
  have hpos := nextBreak_pos resolve limit hlimit remaining
  have hle := length_remainingAfter_le remaining (nextBreak resolve limit remaining)
  unfold nextRemaining
  omega

include hlimit in
theorem firstPiece_cons (resolve : JsString → ℤ) {first : UInt16} (hfirst : isSpace first = false)
    (rest : JsString) :
    ∃ piece, firstPiece resolve limit (first :: rest) = first :: piece := by
  have hpos := nextBreak_pos resolve limit hlimit (first :: rest)
  obtain ⟨count, hcount⟩ := Nat.exists_eq_succ_of_ne_zero hpos.ne'
  unfold firstPiece
  rw [hcount, List.take_succ_cons]
  exact trimEnd_cons hfirst _

theorem chunkRemaining_pieces (remaining : JsString) (houtside : StartsOutside isSpace remaining) :
    Pieces isSpace remaining (chunkRemaining resolve limit hlimit remaining) := by
  induction hlength : remaining.length using Nat.strong_induction_on generalizing remaining with
  | _ length ih =>
    subst hlength
    cases remaining with
    | nil =>
      rw [chunkRemaining_of_le hlimit (by simp)]
      exact Pieces.nil (by simp)
    | cons first rest =>
      have hfirst := houtside first rfl
      rcases lt_or_ge limit (first :: rest).length with hlong | hshort
      · obtain ⟨spaces, hsplit, hspaces⟩ := eq_firstPiece_append resolve limit (first :: rest)
        have hnext := ih _ (length_nextRemaining_lt hlimit resolve hlong)
          (nextRemaining resolve limit (first :: rest))
          (remainingAfter_startsOutside _ _) rfl
        have hlater := hnext.gap_append hspaces
        obtain ⟨piece, hpiece⟩ := firstPiece_cons hlimit resolve hfirst rest
        rw [chunkRemaining_of_lt hlimit hlong, hpiece, if_pos (by simp)]
        rw [hpiece] at hsplit
        have hcons : Pieces isSpace (first :: piece ++ (spaces ++
            nextRemaining resolve limit (first :: rest))) _ :=
          Pieces.cons_start hfirst hlater
        rwa [← hsplit] at hcons
      · rw [chunkRemaining_of_le hlimit hshort, if_neg (by simp)]
        have hcons : Pieces isSpace (first :: rest ++ []) [first :: rest] :=
          Pieces.cons_start hfirst (Pieces.nil (by simp))
        rwa [List.append_nil] at hcons

theorem pieces_behind_firstPiece (resolve : JsString → ℤ) (remaining : JsString) :
    Pieces isSpace (remaining.drop (firstPiece resolve limit remaining).length)
      (chunkRemaining resolve limit hlimit (nextRemaining resolve limit remaining)) := by
  obtain ⟨spaces, hsplit, hspaces⟩ := eq_firstPiece_append resolve limit remaining
  rw [drop_of_eq_append hsplit]
  exact (chunkRemaining_pieces hlimit _ (remainingAfter_startsOutside _ _)).gap_append hspaces

theorem length_of_mem_chunkRemaining (resolve : JsString → ℤ) (remaining : JsString) :
    ∀ chunk ∈ chunkRemaining resolve limit hlimit remaining, chunk.length ≤ limit := by
  induction hlength : remaining.length using Nat.strong_induction_on generalizing remaining with
  | _ length ih =>
    subst hlength
    intro chunk hchunk
    rcases lt_or_ge limit remaining.length with hlong | hshort
    · have hnext := ih _ (length_nextRemaining_lt hlimit resolve hlong) _ rfl
      rw [chunkRemaining_of_lt hlimit hlong] at hchunk
      split_ifs at hchunk with hpiece
      · rcases List.mem_cons.mp hchunk with rfl | hchunk
        · exact length_firstPiece_le remaining
        · exact hnext chunk hchunk
      · exact hnext chunk hchunk
    · rw [chunkRemaining_of_le hlimit hshort] at hchunk
      split_ifs at hchunk with hnone
      · simp at hchunk
      · rw [List.mem_singleton.mp hchunk]
        exact hshort

end Spec

end LittleBaby.TextChunking
