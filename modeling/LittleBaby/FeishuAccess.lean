import LittleBaby.FeishuEvent
import LittleBaby.JsValue

/-!
# Access to the bot in group chats

`readStringArray` on the loosely typed lists of a configuration, and what the
lists let through.
-/

namespace LittleBaby.Feishu

open JsString

/-- The items of an array. -/
def arrayItems : JsValue → List JsValue
  | .array items => items
  | _ => []

/-- `numberText` is `String` on numbers. -/
def readStringArray (numberText : JsNumber → JsString) (value : JsValue) : List JsString :=
  ((arrayItems value).map fun item =>
    match item with
    | .string text => trim text
    | .number number => trim (numberText number)
    | _ => []).filter (· ≠ [])

/-- The part of a configuration that decides about groups, as it is stored. -/
structure GroupAccess where
  groupPolicy : Option JsString
  groupAllowFrom : JsValue
  groupDenyFrom : JsValue

variable {numberText : JsNumber → JsString} {value other : JsValue}

def GroupAccess.read (numberText : JsNumber → JsString) (access : GroupAccess) : FeishuConfig where
  groupPolicy := access.groupPolicy
  groupAllowFrom := readStringArray numberText access.groupAllowFrom
  groupDenyFrom := readStringArray numberText access.groupDenyFrom
  textChunkLimit := none

/-- The set `ids` of `isSenderAllowed`: the chat and the three ids of the
sender, without those that are missing. -/
def FeishuMessageEvent.ids (event : FeishuMessageEvent) : List JsString :=
  ([some event.chatId, event.senderId.openId, event.senderId.userId,
    event.senderId.unionId].filterMap id).filter fun id => !id.isEmpty

theorem readStringArray_mono (hitems : arrayItems value ⊆ arrayItems other) :
    readStringArray numberText value ⊆ readStringArray numberText other := by
  intro id hid
  obtain ⟨hread, hne⟩ := List.mem_filter.mp hid
  exact List.mem_filter.mpr ⟨List.map_subset _ hitems hread, hne⟩

variable {event : FeishuMessageEvent} {config : FeishuConfig}

theorem isSenderAllowed_eq_true_iff (hgroup : event.chatType = .group) :
    isSenderAllowed config event = true ↔ (∀ id ∈ event.ids, id ∉ config.groupDenyFrom) ∧
        (config.groupPolicy = some (js "allowlist") → config.groupAllowFrom ≠ [] →
          ∃ id ∈ event.ids, id ∈ config.groupAllowFrom) := by
  have hany (list : List JsString) : (list.any fun id => event.ids.contains id) = true ↔
      ∃ id ∈ event.ids, id ∈ list := by
    simp [and_comm]
  have heq : isSenderAllowed config event =
      if config.groupDenyFrom.any fun id => event.ids.contains id then false
      else if config.groupPolicy = some (js "allowlist") ∧ config.groupAllowFrom ≠ [] then
        config.groupAllowFrom.any fun id => event.ids.contains id
      else true := by
    unfold isSenderAllowed
    rw [hgroup]
    rfl
  rw [heq]
  split_ifs with hdeny hrestricts
  · obtain ⟨id, hid, hdenied⟩ := (hany _).mp hdeny
    simp only [false_iff, not_and]
    exact fun hclear => absurd hdenied (hclear id hid)
  · rw [hany] at hdeny
    push Not at hdeny
    rw [hany]
    exact ⟨fun hsome => ⟨hdeny, fun _ _ => hsome⟩, fun hboth => hboth.2 hrestricts.1 hrestricts.2⟩
  · rw [hany] at hdeny
    push Not at hdeny
    exact iff_of_true rfl ⟨hdeny, fun hpolicy hsome => absurd ⟨hpolicy, hsome⟩ hrestricts⟩

/-- The lists restrict, and an edit that restricts more lets no refused event
in, unless it empties the allow list, which then restricts nothing. -/
theorem group_access_monotone (numberText : JsNumber → JsString) (access : GroupAccess)
    (hgroup : event.chatType = .group) :
    (∀ id ∈ event.ids, id ∈ readStringArray numberText access.groupDenyFrom →
      isSenderAllowed (access.read numberText) event = false) ∧
    (access.groupPolicy = some (js "allowlist") →
      readStringArray numberText access.groupAllowFrom ≠ [] →
      isSenderAllowed (access.read numberText) event = true →
      ∃ id ∈ event.ids, id ∈ readStringArray numberText access.groupAllowFrom) ∧
    ∀ after : GroupAccess, after.groupPolicy = access.groupPolicy →
      arrayItems after.groupAllowFrom ⊆ arrayItems access.groupAllowFrom →
      arrayItems access.groupDenyFrom ⊆ arrayItems after.groupDenyFrom →
      (readStringArray numberText after.groupAllowFrom = [] →
        readStringArray numberText access.groupAllowFrom = []) →
      isSenderAllowed (access.read numberText) event = false →
      isSenderAllowed (after.read numberText) event = false := by
  refine ⟨fun id hid hdenied => ?_, fun hpolicy hsome hallowed => ?_,
    fun after hpolicy hallow hdeny hkept hrefused => ?_⟩
  · rw [← Bool.not_eq_true, isSenderAllowed_eq_true_iff hgroup]
    exact fun hclear => hclear.1 id hid hdenied
  · exact ((isSenderAllowed_eq_true_iff hgroup).mp hallowed).2 hpolicy hsome
  · rw [← Bool.not_eq_true] at hrefused ⊢
    intro haccepted
    apply hrefused
    rw [isSenderAllowed_eq_true_iff hgroup] at haccepted ⊢
    obtain ⟨hclear, hlisted⟩ := haccepted
    constructor
    · exact fun id hid hdenied => hclear id hid (readStringArray_mono hdeny hdenied)
    · intro hallowlist hsome
      obtain ⟨id, hid, hafter⟩ :=
        hlisted (hpolicy.trans hallowlist) fun hempty => hsome (hkept hempty)
      exact ⟨id, hid, readStringArray_mono hallow hafter⟩

def groupMessage : FeishuMessageEvent :=
  ⟨⟨some (js "ou_b"), none, none⟩, none, js "om_1", js "oc_b", .group, js "text", [], none, none,
    none, []⟩

def otherChatOnly : GroupAccess := ⟨some (js "allowlist"), .array [.string (js "oc_a")], .undefined⟩

theorem group_access_monotone_deny : isSenderAllowed ({ otherChatOnly with
      groupDenyFrom := .array [.string (js "oc_b")] }.read fun _ => []) groupMessage = false :=
  (group_access_monotone (fun _ => []) otherChatOnly rfl).2.2 _ rfl (fun _ hmem => hmem)
    (fun _ hmem => absurd hmem List.not_mem_nil) (fun hempty => hempty) (by decide)

/-- Without its only entry the list lets the event in. -/
theorem emptied_list_opens : isSenderAllowed (otherChatOnly.read fun _ => []) groupMessage = false ∧
      isSenderAllowed ({ otherChatOnly with groupAllowFrom := .array [] }.read fun _ => [])
        groupMessage = true := by
  decide

end LittleBaby.Feishu
