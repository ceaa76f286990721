import LittleBaby.JsString
import Mathlib.Tactic.Ring

/-!
# The context documents of the prompt

`buildContextDocumentsPrompt`, whose budget counts the heading and the blocks
but neither the line breaks between the sections nor the marker of a cut.
-/

namespace LittleBaby.Feishu

open JsString

structure ContextDocument where
  name : JsString
  docType : JsString
  title : Option JsString
  content : JsString

def contextDocumentMaxChars : ℕ := 12000

def contextDocumentTotalMaxChars : ℕ := 36000

/-- `Math.max(1, Math.floor(limit * 0.75))`; up to 36000 the rounding of the product is of no effect. -/
def headChars (limit : ℕ) : ℕ := max 1 (limit * 3 / 4)

/-- `Math.max(1, Math.floor(limit * 0.15))` -/
def tailChars (limit : ℕ) : ℕ := max 1 (limit * 3 / 20)

def truncatedMarker (count : ℕ) : JsString :=
  js "...[truncated " ++ js (toString count) ++ js " chars]..."

def truncateForPrompt (value : JsString) (limit : ℕ) : JsString :=
  if value.length ≤ limit then value
  else join [0x0A] [value.take (headChars limit), [],
    truncatedMarker (value.length - headChars limit - tailChars limit), [],
    value.drop (value.length - tailChars limit)]

def contextHeading : List JsString :=
  [js "## MySQL 上下文文档",
    js "以下内容来自 LittleBaby 的长期上下文文档库，用来约束人格、用户识别、长期记忆和工具偏好。",
    js "这些文档优先级低于本 system prompt 前面的安全规则、当前飞书消息和用户明确要求。",
    js "不要向用户泄露文档中的原始飞书 ID、内部路径或隐私内容；只把它们用于识别和生成更合适的回复。",
    js "旧 AGENTS/TOOLS 里的非 Feishu 平台规则只作为背景，不要把 Discord/WhatsApp/Heartbeat 协议直接照搬到飞书回复。",
    []]

def contextBlock (doc : ContextDocument) : JsString :=
  let content := truncateForPrompt (trim doc.content) contextDocumentMaxChars
  let title := match doc.title with
    | some (unit :: rest) => js " - " ++ unit :: rest
    | _ => []
  join [0x0A] [js "### " ++ doc.name ++ title, js "type: " ++ doc.docType, [], content, []]

def omittedMarker : JsString := js "...[additional context documents truncated]..."

/-- What the loop over the documents pushes when `usedChars` are used. -/
def sectionsFrom (usedChars : ℕ) : List ContextDocument → List JsString
  | [] => []
  | doc :: rest =>
    let block := contextBlock doc
    let remaining := contextDocumentTotalMaxChars - usedChars
    if remaining = 0 then [omittedMarker]
    else if remaining < block.length then [truncateForPrompt block remaining]
    else block :: sectionsFrom (usedChars + block.length) rest

def buildContextDocumentsPrompt (documents : List ContextDocument) : JsString :=
  if documents = [] then []
  else
    let usedChars := (join [0x0A] contextHeading).length
    trim (join [0x0A] (contextHeading ++ sectionsFrom usedChars documents))

/-! ## The length of a trimmed text -/

/-- How much blank space the text ends with. -/
def blankTail (text : JsString) : ℕ := (text.reverse.takeWhile isSpace).length

theorem length_rdropWhile (text : JsString) :
    (text.rdropWhile isSpace).length + blankTail text = text.length := by
  have hsplit := congrArg List.length
    (@List.takeWhile_append_dropWhile _ isSpace text.reverse)
  rw [List.length_append, List.length_reverse] at hsplit
  rw [List.rdropWhile, List.length_reverse, blankTail]
  omega

theorem blankTail_le (text : JsString) : blankTail text ≤ text.length := by
  have hlength := length_rdropWhile text
  omega

theorem blankTail_append (front : JsString) {back : JsString}
    (hback : blankTail back < back.length) : blankTail (front ++ back) = blankTail back := by
  unfold blankTail at hback ⊢
  rw [List.reverse_append, List.takeWhile_append, List.length_reverse, if_neg (by omega)]

theorem blankTail_append_blank (front : JsString) {back : JsString}
    (hback : blankTail back = back.length) :
    blankTail (front ++ back) = blankTail front + back.length := by
  unfold blankTail at hback ⊢
  rw [List.reverse_append, List.takeWhile_append, List.length_reverse, if_pos hback]
  simp [add_comm]

theorem blankTail_lt {text : JsString} {unit : UInt16} (hmem : unit ∈ text)
    (hunit : isSpace unit = false) : blankTail text < text.length := by
  apply lt_of_le_of_ne (blankTail_le text)
  intro hblank
  unfold blankTail at hblank
  rw [← @List.length_reverse _ text, (List.takeWhile_prefix _).sublist.length_eq,
    List.takeWhile_eq_self_iff] at hblank
  have hspace := hblank unit (List.mem_reverse.mpr hmem)
  rw [hunit] at hspace
  contradiction

theorem blankTail_drop {text : JsString} {count : ℕ} (hcount : count ≤ text.length) :
    blankTail (text.drop (text.length - count)) = min count (blankTail text) := by
  unfold blankTail
  rw [List.reverse_drop, Nat.sub_sub_self hcount, ← List.take_takeWhile, List.length_take]

theorem join_cons (first : JsString) (rest : List JsString) :
    join [0x0A] (first :: rest) = first ++ rest.flatMap (0x0A :: ·) := by
  induction rest generalizing first with
  | nil => simp [join]
  | cons second rest ih =>
    have htail := ih second
    unfold join at htail ⊢
    rw [List.intercalate_cons_cons, htail]
    simp

theorem join_append {parts : List JsString} (hparts : parts ≠ []) (more : List JsString) :
    join [0x0A] (parts ++ more) = join [0x0A] parts ++ more.flatMap (0x0A :: ·) := by
  cases parts with
  | nil => contradiction
  | cons first rest =>
    rw [List.cons_append, join_cons, join_cons, List.flatMap_append, List.append_assoc]

/-! ## Truncated blocks -/

theorem contextBlock_ink (doc : ContextDocument) :
    blankTail (contextBlock doc) < (contextBlock doc).length := by
  apply @blankTail_lt _ 0x23 _ rfl
  have hmem : 0x23 ∈ js "### " := by decide
  simp [contextBlock, join_cons, hmem]

theorem omittedMarker_ink : blankTail omittedMarker < omittedMarker.length := by
  apply @blankTail_lt _ 0x2E _ rfl
  exact List.mem_flatMap.mpr ⟨'.', by decide, by decide⟩

theorem length_truncateForPrompt {value : JsString} {limit : ℕ} (hvalue : limit < value.length)
    (hlimit : 0 < limit) : (truncateForPrompt value limit).length =
      headChars limit + tailChars limit + 4 +
        (truncatedMarker (value.length - headChars limit - tailChars limit)).length := by
  have hhead : headChars limit ≤ value.length := by unfold headChars; omega
  have htail : tailChars limit ≤ value.length := by unfold tailChars; omega
  rw [truncateForPrompt, if_neg (by omega)]
  simp [join, List.intercalate]
  omega

theorem blankTail_truncateForPrompt {value : JsString} {limit : ℕ}
    (hvalue : limit < value.length) (hlimit : 0 < limit) :
    blankTail (truncateForPrompt value limit) =
      if blankTail value < tailChars limit then blankTail value else tailChars limit + 2 := by
  have htail : tailChars limit ≤ value.length := by unfold tailChars; omega
  have hdrop := blankTail_drop htail
  have hlength : (value.drop (value.length - tailChars limit)).length = tailChars limit := by
    rw [List.length_drop]
    omega
  have hsplit : truncateForPrompt value limit = (value.take (headChars limit) ++
      0x0A :: 0x0A :: (js "...[truncated " ++
        js (toString (value.length - headChars limit - tailChars limit)) ++ js " chars]..")) ++
        [0x2E, 0x0A, 0x0A] ++ value.drop (value.length - tailChars limit) := by
    have hmarker : js " chars]..." = js " chars].." ++ [0x2E] := by simp [js, encode]
    rw [truncateForPrompt, if_neg (by omega), join_cons, truncatedMarker, hmarker]
    simp
  rw [hsplit]
  split_ifs with hblank
  · rw [blankTail_append _ (by omega)]
    omega
  · rw [blankTail_append_blank _ (by omega), blankTail_append _ (by decide), hlength]
    have hmark : blankTail [0x2E, 0x0A, 0x0A] = 2 := by decide
    omega

/-! ## The budget -/

def contextRoom : ℕ := contextDocumentTotalMaxChars - (join [0x0A] contextHeading).length

/-- The blocks that are taken as a whole. -/
def fitting (room : ℕ) : List JsString → List JsString
  | [] => []
  | block :: rest =>
    if room < block.length then [] else block :: fitting (room - block.length) rest

/-- The line breaks and the marker fit into what the blocks leave of the budget. -/
def KeepsBudget (documents : List ContextDocument) : Prop :=
  let blocks := documents.map contextBlock
  let kept := fitting contextRoom blocks
  let remaining := contextRoom - kept.flatten.length
  match blocks.drop kept.length with
  | [] => kept.length ≤ remaining + blankTail kept.flatten
  | block :: _ =>
    let marker := truncatedMarker (block.length - headChars remaining - tailChars remaining)
    let dropped := if blankTail block < tailChars remaining then blankTail block
      else tailChars remaining + 2
    0 < remaining ∧ kept.length + 1 + headChars remaining + tailChars remaining + 4 +
      marker.length ≤ remaining + dropped

theorem sectionsFrom_cons {usedChars length : ℕ} {doc : ContextDocument}
    (hlength : (contextBlock doc).length = length)
    (hfits : length ≤ contextDocumentTotalMaxChars - usedChars) (rest : List ContextDocument) :
    sectionsFrom usedChars (doc :: rest) =
      contextBlock doc :: sectionsFrom (usedChars + length) rest := by
  have hpositive := contextBlock_ink doc
  rw [sectionsFrom, if_neg (by omega), if_neg (by omega), hlength]

theorem sectionsFrom_eq (documents : List ContextDocument) (usedChars : ℕ) :
    sectionsFrom usedChars documents =
      let blocks := documents.map contextBlock
      let kept := fitting (contextDocumentTotalMaxChars - usedChars) blocks
      let remaining := contextDocumentTotalMaxChars - usedChars - kept.flatten.length
      kept ++ match blocks.drop kept.length with
        | [] => []
        | block :: _ =>
          [if remaining = 0 then omittedMarker else truncateForPrompt block remaining] := by
  induction documents generalizing usedChars with
  | nil => rfl
  | cons doc rest ih =>
    by_cases hlarge : contextDocumentTotalMaxChars - usedChars < (contextBlock doc).length
    · simp only [sectionsFrom, List.map_cons, fitting, hlarge, if_true]
      split_ifs <;> simp_all
    · rw [sectionsFrom_cons rfl (by omega), ih]
      simp [fitting, hlarge, Nat.sub_sub, Nat.add_assoc]

theorem fitting_spec (blocks : List JsString) (room : ℕ) :
    fitting room blocks <+: blocks ∧ (fitting room blocks).flatten.length ≤ room ∧
      ∀ block rest, blocks.drop (fitting room blocks).length = block :: rest →
        room - (fitting room blocks).flatten.length < block.length := by
  induction blocks generalizing room with
  | nil => simp [fitting]
  | cons first others ih =>
    unfold fitting
    split_ifs with hlarge
    · simp_all
    · have ⟨hpart, hroom, hnext⟩ := ih (room - first.length)
      rw [List.flatten_cons, List.length_append]
      refine ⟨List.cons_prefix_cons.mpr ⟨rfl, hpart⟩, by omega, fun block rest hdrop => ?_⟩
      have hblock := hnext block rest hdrop
      omega

theorem length_flatMap_break (sections : List JsString) :
    (sections.flatMap (0x0A :: ·)).length = sections.flatten.length + sections.length := by
  induction sections with
  | nil => rfl
  | cons first rest ih =>
    rw [List.flatMap_cons, List.length_append, ih, List.flatten_cons, List.length_append,
      List.length_cons, List.length_cons]
    omega

theorem length_contextHeading : (join [0x0A] contextHeading).length = 242 := by
  have hlengths : contextHeading.map List.length = [14, 50, 47, 47, 79, 0] := by decide +kernel
  rw [contextHeading, join_cons, List.length_append, length_flatMap_break, List.length_flatten]
  simp only [contextHeading, List.map_cons, List.map_nil, List.cons.injEq] at hlengths
  simp [hlengths]

theorem length_buildContextDocumentsPrompt {documents : List ContextDocument}
    {front : List JsString} {last : JsString} (hlast : blankTail last < last.length)
    (hsections : sectionsFrom 242 documents = front ++ [last]) :
    (buildContextDocumentsPrompt documents).length + blankTail last =
      243 + front.flatten.length + front.length + last.length := by
  have hsome : documents ≠ [] := by
    intro hnone
    simp [hnone, sectionsFrom] at hsections
  have htext : join [0x0A] (contextHeading ++ (front ++ [last])) =
      (join [0x0A] contextHeading ++ front.flatMap (0x0A :: ·) ++ [0x0A]) ++ last := by
    rw [join_append (by simp [contextHeading]), List.flatMap_append]
    simp
  have hdrop : (join [0x0A] (contextHeading ++ (front ++ [last]))).dropWhile isSpace =
      join [0x0A] (contextHeading ++ (front ++ [last])) := by
    have hfirst : (js "## MySQL 上下文文档").head? = some 0x23 := by decide
    have ⟨rest, hrest⟩ := List.head?_eq_some_iff.mp hfirst
    rw [contextHeading, List.cons_append, join_cons, hrest]
    rfl
  have htrim := length_rdropWhile (join [0x0A] (contextHeading ++ (front ++ [last])))
  rw [buildContextDocumentsPrompt, if_neg hsome]
  dsimp only
  rw [length_contextHeading, hsections, trim, hdrop]
  rw [htext, blankTail_append _ hlast, ← htext] at htrim
  have hlength := congrArg List.length htext
  simp only [List.length_append, length_contextHeading, length_flatMap_break,
    List.length_singleton] at hlength
  omega

theorem exceeds_of_spent {documents : List ContextDocument} {kept : List JsString}
    (hsections : sectionsFrom 242 documents = kept ++ [omittedMarker])
    (hspent : kept.flatten.length = 35758) :
    contextDocumentTotalMaxChars < (buildContextDocumentsPrompt documents).length := by
  have hmarker := omittedMarker_ink
  have hlength := length_buildContextDocumentsPrompt hmarker hsections
  have htotal : contextDocumentTotalMaxChars = 36000 := rfl
  omega

theorem length_prompt_le_iff (documents : List ContextDocument) :
    (buildContextDocumentsPrompt documents).length ≤ contextDocumentTotalMaxChars ↔
      KeepsBudget documents := by
  have htotal : contextDocumentTotalMaxChars = 36000 := rfl
  have hused : contextDocumentTotalMaxChars - 242 = contextRoom := by
    rw [contextRoom, length_contextHeading]
  have ⟨hpart, hfit, hnext⟩ := fitting_spec (documents.map contextBlock) contextRoom
  have hsections := sectionsFrom_eq documents 242
  have hink : ∀ block ∈ documents.map contextBlock, blankTail block < block.length := by
    intro block hmem
    have ⟨doc, _, hdoc⟩ := List.mem_map.mp hmem
    exact hdoc ▸ contextBlock_ink doc
  rw [hused] at hsections
  unfold KeepsBudget
  dsimp only at hsections ⊢
  generalize fitting contextRoom (documents.map contextBlock) = kept at *
  cases hrest : (documents.map contextBlock).drop kept.length with
  | nil =>
    rw [hrest, List.append_nil] at hsections
    dsimp only
    rcases List.eq_nil_or_concat kept with hnone | ⟨front, last, hfront⟩
    · rw [hnone, List.length_nil, List.drop_zero, List.map_eq_nil_iff] at hrest
      have hempty : buildContextDocumentsPrompt documents = [] := if_pos hrest
      rw [hempty, hnone]
      exact iff_of_true (Nat.zero_le _) (Nat.zero_le _)
    · rw [List.concat_eq_append] at hfront
      subst hfront
      have hlast := hink last (hpart.subset (by simp))
      have hlength := length_buildContextDocumentsPrompt hlast hsections
      rw [List.flatten_append, List.flatten_singleton, List.length_append] at hfit ⊢
      rw [blankTail_append _ hlast, List.length_append, List.length_singleton]
      omega
  | cons block rest =>
    rw [hrest] at hsections
    dsimp only at hsections ⊢
    have hlarge := hnext block rest hrest
    by_cases hspent : contextRoom - kept.flatten.length = 0
    · rw [if_pos hspent] at hsections
      have hexceeds := exceeds_of_spent hsections (by omega)
      omega
    · rw [if_neg hspent] at hsections
      have hcut := length_truncateForPrompt hlarge (by omega)
      have htail := blankTail_truncateForPrompt hlarge (by omega)
      have hlast : blankTail (truncateForPrompt block (contextRoom - kept.flatten.length)) <
          (truncateForPrompt block (contextRoom - kept.flatten.length)).length := by
        split_ifs at htail <;> omega
      have hlength := length_buildContextDocumentsPrompt hlast hsections
      omega

/-- A document with so many letters of content. -/
def page (count : ℕ) : ContextDocument where
  name := js "a"
  docType := js "note"
  title := none
  content := List.replicate count 0x61

theorem length_page {count : ℕ} (hcount : count ≤ contextDocumentMaxChars) :
    (contextBlock (page count)).length = count + 19 := by
  have htrim : trim (page count).content = List.replicate count 0x61 := by
    apply trim_eq_self
    intro unit hunit
    rw [List.eq_of_mem_replicate hunit]
    rfl
  rw [contextBlock, htrim, truncateForPrompt, if_pos (by simpa using hcount), join_cons]
  simp [page, js, encode]

theorem pages_exceed_budget :
    ¬ (buildContextDocumentsPrompt [page 12000, page 12000, page 11701, page 1]).length ≤
      contextDocumentTotalMaxChars := by
  have hlong := @length_page 12000 (by decide)
  have hlast := @length_page 11701 (by decide)
  have hsections : sectionsFrom 242 [page 12000, page 12000, page 11701, page 1] =
      [contextBlock (page 12000), contextBlock (page 12000), contextBlock (page 11701)] ++
        [omittedMarker] := by
    rw [sectionsFrom_cons hlong (by decide), sectionsFrom_cons hlong (by decide),
      sectionsFrom_cons hlast (by decide)]
    rfl
  apply Nat.not_le_of_lt
  apply exceeds_of_spent hsections
  simp [hlong, hlast]

end LittleBaby.Feishu
