import LittleBaby.ToolCallIds

/-!
# Ids that no earlier call has

A call has a thousand candidates for its id.  While fewer than a thousand calls meet
on them, one is free.
-/

namespace LittleBaby.ToolCallIds

open JsString

theorem isAlphanumeric_of_isHexDigit {unit : UInt16} (hunit : isHexDigit unit = true) :
    isAlphanumeric unit = true := by
  simp only [isHexDigit, isAlphanumeric, Bool.or_eq_true, Bool.and_eq_true,
    decide_eq_true_eq, UInt16.le_iff_toNat_le] at hunit ⊢
  rcases hunit with hdigit | hletter
  · exact .inr hdigit
  · left; left
    refine ⟨hletter.1, hletter.2.trans (by decide)⟩

variable {count : ℕ}

theorem toNat_le_of_mem_toDigits {digit : Char}
    (hdigit : digit ∈ Nat.toDigits 10 count) : 48 ≤ digit.toNat ∧ digit.toNat ≤ 57 := by
  have hrange := Nat.isDigit_of_mem_toDigits (by decide) (by decide) hdigit
  simp only [Char.isDigit, Bool.and_eq_true, decide_eq_true_eq] at hrange
  exact hrange

theorem decimal_eq_map (count : ℕ) :
    decimal count = (Nat.toDigits 10 count).map fun digit => digit.toNat.toUInt16 := by
  have hencode : ∀ digit ∈ Nat.toDigits 10 count, encode digit = [digit.toNat.toUInt16] := by
    intro digit hdigit
    have hrange := toNat_le_of_mem_toDigits hdigit
    rw [encode, if_pos (by omega)]
  have hlist : (toString count).toList = Nat.toDigits 10 count := by
    rw [show toString count = Nat.repr count from rfl, Nat.repr_eq_ofList_toDigits,
      String.toList_ofList]
  rw [decimal, js, hlist, List.flatMap_congr hencode, List.map_eq_flatMap]

theorem isDigit_of_mem_decimal {unit : UInt16} (hunit : unit ∈ decimal count) :
    48 ≤ unit.toNat ∧ unit.toNat ≤ 57 := by
  rw [decimal_eq_map] at hunit
  obtain ⟨digit, hdigit, rfl⟩ := List.mem_map.mp hunit
  have hrange := toNat_le_of_mem_toDigits hdigit
  have hunit : (digit.toNat.toUInt16).toNat = digit.toNat := by
    simp only [Nat.toUInt16_eq, UInt16.toNat_ofNat']
    omega
  omega

theorem decimal_injective : Function.Injective decimal := by
  intro first second heq
  rw [decimal_eq_map, decimal_eq_map] at heq
  have hdecode : ∀ count, ((Nat.toDigits 10 count).map fun digit =>
      digit.toNat.toUInt16).map (fun unit => Char.ofNat unit.toNat) = Nat.toDigits 10 count := by
    intro count
    rw [List.map_map]
    conv_rhs => rw [← List.map_id (Nat.toDigits 10 count)]
    apply List.map_congr_left
    intro digit hdigit
    have hrange := toNat_le_of_mem_toDigits hdigit
    have hunit : (digit.toNat.toUInt16).toNat = digit.toNat := by
      simp only [Nat.toUInt16_eq, UInt16.toNat_ofNat']
      omega
    simp [hunit]
  have hdigits := congrArg (List.map fun unit => Char.ofNat unit.toNat) heq
  rw [hdecode, hdecode] at hdigits
  calc
    first = Nat.ofDigitChars 10 (Nat.toDigits 10 first) 0 := Nat.ofDigitChars_ten_toDigits.symm
    _ = Nat.ofDigitChars 10 (Nat.toDigits 10 second) 0 := by rw [hdigits]
    _ = second := Nat.ofDigitChars_ten_toDigits

theorem length_decimal_le (hcount : count < 1000) : (decimal count).length ≤ 3 := by
  rw [decimal_eq_map, List.length_map]
  exact (Nat.length_toDigits_le_iff (by decide) (by decide)).mpr hcount

def Alphanumeric (text : JsString) : Prop := ∀ unit ∈ text, isAlphanumeric unit = true

theorem Alphanumeric.take {text : JsString} (htext : Alphanumeric text) (length : ℕ) :
    Alphanumeric (text.take length) :=
  fun unit hunit => htext unit (List.mem_of_mem_take hunit)

theorem Alphanumeric.append {first second : JsString} (hfirst : Alphanumeric first)
    (hsecond : Alphanumeric second) : Alphanumeric (first ++ second) := by
  intro unit hunit
  rcases List.mem_append.mp hunit with hunit | hunit
  · exact hfirst unit hunit
  · exact hsecond unit hunit

theorem alphanumeric_decimal (count : ℕ) : Alphanumeric (decimal count) := by
  intro unit hunit
  have hrange := isDigit_of_mem_decimal hunit
  simp only [isAlphanumeric, Bool.or_eq_true, Bool.and_eq_true, decide_eq_true_eq,
    UInt16.le_iff_toNat_le]
  exact .inr hrange

theorem alphanumeric_alphanumericOnly (id : JsString) : Alphanumeric (alphanumericOnly id) :=
  fun _ hunit => (List.mem_filter.mp hunit).2

variable (sha256 : Sha256)

theorem alphanumeric_shortHash (text : JsString) (length : ℕ) :
    Alphanumeric (shortHash sha256 text length) := fun unit hunit =>
  isAlphanumeric_of_isHexDigit (sha256.isHexDigit_of_mem text unit (List.mem_of_mem_take hunit))

theorem length_shortHash (text : JsString) {length : ℕ} (hlength : length ≤ 64) :
    (shortHash sha256 text length).length = length := by
  rw [shortHash, List.length_take_of_le (by rw [sha256.length_hex]; exact hlength)]

theorem sanitizeToolCallId_strict9 (id : JsString) :
    (sanitizeToolCallId sha256 id .strict9).length = strict9Len ∧
      Alphanumeric (sanitizeToolCallId sha256 id .strict9) := by
  have hhash : strict9Len ≤ 64 := by decide
  simp only [sanitizeToolCallId]
  split_ifs with hempty hlong hsome
  · exact ⟨by decide, by unfold Alphanumeric; decide⟩
  · exact ⟨List.length_take_of_le hlong, (alphanumeric_alphanumericOnly id).take _⟩
  · exact ⟨length_shortHash sha256 _ hhash, alphanumeric_shortHash sha256 _ _⟩
  · exact ⟨length_shortHash sha256 _ hhash, alphanumeric_shortHash sha256 _ _⟩

theorem sanitizeToolCallId_strict (id : JsString) : sanitizeToolCallId sha256 id .strict ≠ [] ∧
      Alphanumeric (sanitizeToolCallId sha256 id .strict) := by
  simp only [sanitizeToolCallId]
  split_ifs with hempty hsome
  · exact ⟨by decide, by unfold Alphanumeric; decide⟩
  · exact ⟨List.ne_nil_of_length_pos hsome, alphanumeric_alphanumericOnly id⟩
  · exact ⟨by decide, by unfold Alphanumeric; decide⟩

variable {id : JsString}

theorem isValid_strict9 (hlength : id.length = strict9Len)
    (halphanumeric : Alphanumeric id) : isValidCloudCodeAssistToolId id .strict9 = true := by
  simp only [isValidCloudCodeAssistToolId, Bool.and_eq_true, decide_eq_true_eq, List.all_eq_true]
  exact ⟨hlength, halphanumeric⟩

theorem isValid_strict (hne : id ≠ []) (halphanumeric : Alphanumeric id) :
    isValidCloudCodeAssistToolId id .strict = true := by
  simp only [isValidCloudCodeAssistToolId, Bool.and_eq_true, decide_eq_true_eq, List.all_eq_true]
  exact ⟨hne, halphanumeric⟩

theorem alphanumeric_hashCandidate (id : JsString) : Alphanumeric (hashCandidate sha256 id) :=
  (((sanitizeToolCallId_strict sha256 id).2.take _).take _).append
    (alphanumeric_shortHash sha256 _ _)

theorem alphanumeric_suffixed {candidate mark : JsString} (hcandidate : Alphanumeric candidate)
    (hmark : Alphanumeric mark) (length index : ℕ) :
    Alphanumeric (candidate.take length ++ (mark ++ decimal index)) :=
  (hcandidate.take _).append (hmark.append (alphanumeric_decimal index))

theorem isValid_makeUniqueToolId (dateNow : ℕ) (id : JsString) (used : List JsString)
    (mode : ToolCallIdMode) :
    isValidCloudCodeAssistToolId (makeUniqueToolId sha256 dateNow id used mode) mode = true := by
  cases mode with
  | strict9 =>
    have hbase := sanitizeToolCallId_strict9 sha256 id
    have hlength : strict9Len ≤ 64 := by decide
    simp only [makeUniqueToolId, if_pos hbase.1.ge]
    split
    · exact isValid_strict9 (List.length_take_of_le hbase.1.ge) (hbase.2.take _)
    · split
      · next hashed hfound =>
          obtain ⟨index, -, rfl⟩ := List.mem_map.mp (List.mem_of_find?_eq_some hfound)
          exact isValid_strict9 (length_shortHash sha256 _ hlength)
            (alphanumeric_shortHash sha256 _ _)
      · exact isValid_strict9 (length_shortHash sha256 _ hlength)
          (alphanumeric_shortHash sha256 _ _)
  | strict =>
    obtain ⟨hne, halphanumeric⟩ := sanitizeToolCallId_strict sha256 id
    have hcandidate := alphanumeric_hashCandidate sha256 id
    have hx : Alphanumeric (js "x") := by unfold Alphanumeric; decide
    have ht : Alphanumeric (js "t") := by unfold Alphanumeric; decide
    simp only [makeUniqueToolId]
    split
    · apply isValid_strict _ (halphanumeric.take _)
      rw [ne_eq, List.take_eq_nil_iff]
      exact fun hnil => hnil.elim (by decide) hne
    split
    · apply isValid_strict _ hcandidate
      apply List.ne_nil_of_length_pos
      rw [hashCandidate, List.length_append, length_shortHash sha256 id (by decide)]
      omega
    have hsuffixed : ∀ mark : JsString, mark ≠ [] → ∀ length index,
        (hashCandidate sha256 id).take length ++ (mark ++ decimal index) ≠ [] := by
      intro mark hmark length index
      exact List.append_ne_nil_of_right_ne_nil _ (List.append_ne_nil_of_left_ne_nil hmark _)
    split
    · next next hfound =>
        obtain ⟨index, -, rfl⟩ := List.mem_map.mp (List.mem_of_find?_eq_some hfound)
        exact isValid_strict (hsuffixed (js "x") (by decide) _ index)
          (alphanumeric_suffixed hcandidate hx _ index)
    · exact isValid_strict (hsuffixed (js "t") (by decide) _ dateNow)
        (alphanumeric_suffixed hcandidate ht _ dateNow)

def candidates (id : JsString) (mode : ToolCallIdMode) : List JsString :=
  match mode with
  | .strict9 =>
    (sanitizeToolCallId sha256 id .strict9).take strict9Len ::
      (List.range 1000).map (hashedId sha256 id)
  | .strict =>
    (sanitizeToolCallId sha256 id .strict).take maxLen :: hashCandidate sha256 id ::
      (List.range' 2 998).map (numberedId (hashCandidate sha256 id))

def collisions (id : JsString) (used : List JsString) (mode : ToolCallIdMode) : ℕ :=
  (used.filter fun other => other ∈ candidates sha256 id mode).length

theorem eq_of_append_mark_eq {mark : UInt16} {first second later other : JsString}
    (hlater : mark ∉ later) (hother : mark ∉ other)
    (heq : first ++ mark :: later = second ++ mark :: other) : later = other := by
  have hread : ∀ before after : JsString, mark ∉ after →
      (before ++ mark :: after).rtakeWhile (· ≠ mark) = after := by
    intro before after hafter
    rw [List.rtakeWhile, List.reverse_append, List.reverse_cons, List.append_assoc,
      List.takeWhile_append_of_pos, List.singleton_append, List.takeWhile_cons_of_neg,
      List.append_nil, List.reverse_reverse]
    · simp
    · intro unit hunit
      have hne : unit ≠ mark := fun hsame => hafter (hsame ▸ List.mem_reverse.mp hunit)
      simpa using hne
  rw [← hread first later hlater, heq, hread second other hother]

def markX : UInt16 := 120

theorem numberedId_eq (candidate : JsString) (index : ℕ) :
    ∃ before, numberedId candidate index = before ++ markX :: decimal index := by
  exact ⟨_, rfl⟩

theorem markX_not_mem_decimal (index : ℕ) : markX ∉ decimal index := by
  intro hmem
  have hrange := isDigit_of_mem_decimal hmem
  exact absurd hrange.2 (by decide)

theorem numberedId_injective (candidate : JsString) :
    Function.Injective (numberedId candidate) := by
  intro first second heq
  obtain ⟨before, hfirst⟩ := numberedId_eq candidate first
  obtain ⟨other, hsecond⟩ := numberedId_eq candidate second
  rw [hfirst, hsecond] at heq
  exact decimal_injective (eq_of_append_mark_eq (markX_not_mem_decimal first)
    (markX_not_mem_decimal second) heq)

theorem hashCandidate_ne_numberedId (id candidate : JsString) {index : ℕ}
    (hindex : index < 1000) : hashCandidate sha256 id ≠ numberedId candidate index := by
  intro heq
  obtain ⟨before, hnumbered⟩ := numberedId_eq candidate index
  have hlength := length_shortHash sha256 id (by decide : 8 ≤ 64)
  have hmark : markX ∉ shortHash sha256 id 8 := fun hmem =>
    absurd (sha256.isHexDigit_of_mem id markX (List.mem_of_mem_take hmem)) (by decide)
  rw [hnumbered, hashCandidate] at heq
  have hshort := length_decimal_le hindex
  rcases List.append_eq_append_iff.mp heq with ⟨between, -, hhash⟩ | ⟨between, -, hrest⟩
  · exact hmark (by rw [hhash]; simp)
  · have hlengths := congrArg List.length hrest
    rw [List.length_cons, List.length_append, hlength] at hlengths
    omega

theorem makeUniqueToolId_not_mem {used : List JsString}
    {mode : ToolCallIdMode} (hfew : collisions sha256 id used mode + 1 < 1000)
    (hhashes : mode = .strict9 → ((List.range 1000).map (hashedId sha256 id)).Nodup)
    (dateNow : ℕ) : makeUniqueToolId sha256 dateNow id used mode ∉ used := by
  have hroom : ∀ free : List JsString, free.Nodup → free ⊆ candidates sha256 id mode →
      999 ≤ free.length → ∃ next ∈ free, next ∉ used := by
    intro free hnodup hsub hlength
    by_contra hall
    push Not at hall
    have hsubperm : free.Subperm (used.filter fun other => other ∈ candidates sha256 id mode) := by
      apply hnodup.subperm
      intro next hnext
      exact List.mem_filter.mpr ⟨hall next hnext, by simpa using hsub hnext⟩
    have hle := hsubperm.length_le
    unfold collisions at hfew
    omega
  cases mode with
  | strict9 =>
    have hbase := (sanitizeToolCallId_strict9 sha256 id).1.ge
    simp only [makeUniqueToolId, if_pos hbase]
    split
    · next hfree => exact hfree.2
    split
    · next hashed hfound => simpa using List.find?_some hfound
    · next hnone =>
        obtain ⟨next, hmem, hfree⟩ := hroom _ (hhashes rfl)
          (fun other hother => List.mem_cons_of_mem _ hother) (by simp)
        have hused := List.find?_eq_none.mp hnone next hmem
        simp [hfree] at hused
  | strict =>
    simp only [makeUniqueToolId]
    split
    · next hfree => exact hfree
    split
    · next hfree => exact hfree
    next hcandidate =>
    split
    · next next hfound => simpa using List.find?_some hfound
    · next hnone =>
        have hnodup : (hashCandidate sha256 id ::
            (List.range' 2 998).map (numberedId (hashCandidate sha256 id))).Nodup := by
          apply List.nodup_cons.mpr
          constructor
          · intro hmem
            obtain ⟨index, hindex, heq⟩ := List.mem_map.mp hmem
            have hrange := List.mem_range'_1.mp hindex
            exact hashCandidate_ne_numberedId sha256 id _ (by omega) heq.symm
          · exact List.Nodup.map (numberedId_injective _) List.nodup_range'
        obtain ⟨next, hmem, hfree⟩ := hroom _ hnodup
          (fun other hother => List.mem_cons_of_mem _ hother) (by simp)
        rcases List.mem_cons.mp hmem with rfl | hmem
        · exact absurd hfree hcandidate
        · have hused := List.find?_eq_none.mp hnone next hmem
          simp [hfree] at hused

end LittleBaby.ToolCallIds
