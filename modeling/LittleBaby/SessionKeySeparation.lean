import LittleBaby.RouteKeys

/-!
# Session keys of different conversations

Session keys join fields with colons, and peer ids may have colons and reserved words in
them.  This file finds all conversations that share a key.
-/

namespace LittleBaby.Routing

open JsString

variable (casing : Casing)

structure Conversation where
  agentId : JsString
  channel : JsString
  accountId : JsString
  peerKind : ChatType
  peerId : JsString

namespace Conversation

variable (conversation : Conversation)

/-- All fields but the peer id are normalised; the peer id may be any text, as long as
something of it is left. -/
structure Normalised : Prop where
  agentId : casing.normalizeAgentId (some conversation.agentId) = conversation.agentId
  channel : casing.normalizeLowercaseStringOrEmpty (some conversation.channel) =
    conversation.channel
  channelGiven : conversation.channel ≠ []
  channelColonFree : 0x3A ∉ conversation.channel
  accountId : casing.normalizeAccountId (some conversation.accountId) = conversation.accountId
  peerIdGiven : casing.normalizeLowercaseStringOrEmpty (some conversation.peerId) ≠ []

def peer : JsString := casing.normalizeLowercaseStringOrEmpty (some conversation.peerId)

def key (dmScope : DmScope) (mainKey : Option JsString) : JsString :=
  casing.buildAgentPeerSessionKey
    { agentId := conversation.agentId
      mainKey
      channel := conversation.channel
      accountId := some conversation.accountId
      peerKind := conversation.peerKind.text
      peerId := some conversation.peerId
      dmScope
      identityLinks := none }

def keyRest (dmScope : DmScope) : JsString :=
  match conversation.peerKind, dmScope with
  | .direct, .main => []
  | .direct, .perPeer => js "direct" ++ 0x3A :: conversation.peer casing
  | .direct, .perChannelPeer =>
    conversation.channel ++ 0x3A :: (js "direct" ++ 0x3A :: conversation.peer casing)
  | .direct, .perAccountChannelPeer =>
    conversation.channel ++ 0x3A :: (conversation.accountId ++
      0x3A :: (js "direct" ++ 0x3A :: conversation.peer casing))
  | kind, _ => conversation.channel ++ 0x3A :: (kind.text ++ 0x3A :: conversation.peer casing)

end Conversation

structure SameConversation (dmScope : DmScope) (a b : Conversation) : Prop where
  agentId : a.agentId = b.agentId
  channel : a.channel = b.channel ∨ (a.peerKind = .direct ∧ dmScope = .perPeer)
  peerKind : a.peerKind = b.peerKind
  peer : a.peer casing = b.peer casing
  accountId : a.peerKind = .direct → dmScope = .perAccountChannelPeer → a.accountId = b.accountId

/-- A direct chat has the key of a group or a channel: its account is named like a kind, or
its peer id begins with a kind and the other channel is named `direct`. -/
def Collide (dmScope : DmScope) (a b : Conversation) : Prop :=
  a.peerKind = .direct ∧ b.peerKind ≠ .direct ∧ a.agentId = b.agentId ∧
    match dmScope with
    | .perAccountChannelPeer => a.channel = b.channel ∧ a.accountId = b.peerKind.text ∧
        b.peer casing = js "direct" ++ 0x3A :: a.peer casing
    | .perPeer => b.channel = js "direct" ∧ a.peer casing = b.peerKind.text ++ 0x3A :: b.peer casing
    | _ => False

theorem eq_of_append_colon {a b c d : JsString} (ha : 0x3A ∉ a) (hb : 0x3A ∉ b)
    (heq : a ++ 0x3A :: c = b ++ 0x3A :: d) : a = b ∧ c = d := by
  induction a generalizing b with
  | nil =>
    cases b with
    | nil => exact ⟨rfl, (List.cons.inj heq).2⟩
    | cons unit b =>
      have hunit : 0x3A = unit := (List.cons.inj heq).1
      exact absurd (hunit ▸ List.mem_cons_self) hb
  | cons unit a ih =>
    cases b with
    | nil =>
      have hunit : unit = 0x3A := (List.cons.inj heq).1
      exact absurd (hunit ▸ List.mem_cons_self) ha
    | cons other b =>
      obtain ⟨hunit, hrest⟩ := List.cons.inj heq
      obtain ⟨hab, hcd⟩ := ih (fun hmem => ha (List.mem_cons_of_mem _ hmem))
        (fun hmem => hb (List.mem_cons_of_mem _ hmem)) hrest
      exact ⟨by rw [hunit, hab], hcd⟩

theorem colon_notMem_of_ids {text : JsString}
    (hids : ∀ unit ∈ text, isLowerIdUnit unit = true) : 0x3A ∉ text := by
  intro hmem
  exact absurd (hids _ hmem) (by decide)

theorem colon_notMem_kind (kind : ChatType) : 0x3A ∉ kind.text := by
  cases kind
  all_goals decide

theorem kind_of_text {kind other : ChatType} (htext : kind.text = other.text) : kind = other := by
  revert htext
  cases kind
  all_goals
    cases other
    all_goals decide

theorem keyRest_of_not_direct {conversation : Conversation} (dmScope : DmScope)
    (hother : conversation.peerKind ≠ .direct) :
    conversation.keyRest casing dmScope = conversation.channel ++
      0x3A :: (conversation.peerKind.text ++ 0x3A :: conversation.peer casing) := by
  unfold Conversation.keyRest
  cases hkind : conversation.peerKind with
  | direct => exact absurd hkind hother
  | group => rfl
  | channel => rfl

theorem mem_normalizeAgentId (value : Option JsString) :
    ∀ unit ∈ casing.normalizeAgentId value, isLowerIdUnit unit = true := by
  have hdefault : ∀ unit ∈ DEFAULT_AGENT_ID, isLowerIdUnit unit = true := by
    decide
  unfold Casing.normalizeAgentId orText
  simp only
  split_ifs with hempty hvalid hnone
  · exact hdefault
  · rw [casing.normalizeLowercase_of_isValidId hvalid]
    intro unit hunit
    obtain ⟨original, horiginal, rfl⟩ := List.mem_map.mp hunit
    exact mem_of_isValidId hvalid original horiginal
  · exact hdefault
  · exact mem_collapseId

namespace Conversation

variable {casing} {conversation : Conversation}

theorem Normalised.agentId_colonFree (hnormal : conversation.Normalised casing) :
    0x3A ∉ conversation.agentId := by
  rw [← hnormal.agentId]
  exact colon_notMem_of_ids (mem_normalizeAgentId casing _)

theorem Normalised.accountId_colonFree (hnormal : conversation.Normalised casing) :
    0x3A ∉ conversation.accountId := by
  rw [← hnormal.accountId]
  exact colon_notMem_of_ids (casing.mem_normalizeAccountId)

theorem directPeerId_eq (params : Casing.PeerSessionKeyParams)
    (hlinks : params.identityLinks = none) :
    casing.directPeerId params = casing.normalizeLowercaseStringOrEmpty params.peerId := by
  have htrim : ∀ text, nonBlank (trim text) = nonBlank text := by
    intro text
    unfold nonBlank
    rw [trim_trim]
  unfold Casing.directPeerId
  simp only [hlinks, Casing.resolveLinkedPeerId, ite_self, Option.getD_none]
  simp [Casing.normalizeLowercaseStringOrEmpty, Casing.normalizeOptionalLowercaseString, orEmpty, htrim]

theorem key_eq (hnormal : conversation.Normalised casing) {dmScope : DmScope}
    (hscope : dmScope ≠ .main) (mainKey : Option JsString) :
    conversation.key casing dmScope mainKey =
      js "agent:" ++ (conversation.agentId ++ 0x3A :: conversation.keyRest casing dmScope) := by
  have hpeer : conversation.peer casing ≠ [] := hnormal.peerIdGiven
  have hchannel : orText conversation.channel (js "unknown") = conversation.channel :=
    if_neg hnormal.channelGiven
  have hgiven : orText (conversation.peer casing) (js "unknown") = conversation.peer casing :=
    if_neg hpeer
  have hsame : casing.normalizeLowercaseStringOrEmpty (some conversation.peerId) =
      conversation.peer casing := rfl
  have hcolon : js ":" = [0x3A] := by decide
  have hdirect : js ":direct:" = 0x3A :: (js "direct" ++ [0x3A]) := by decide
  have hplain : js "direct:" = js "direct" ++ [0x3A] := by decide
  unfold key Casing.buildAgentPeerSessionKey keyRest
  simp only [directPeerId_eq, hnormal.agentId, hnormal.channel, hnormal.accountId, hchannel, hsame]
  cases hkind : conversation.peerKind with
  | direct =>
    cases dmScope with
    | main => exact absurd rfl hscope
    | perPeer => simp [ChatType.text, hplain, hcolon, hpeer]
    | perChannelPeer | perAccountChannelPeer =>
      simp [ChatType.text, hdirect, hcolon, hpeer]
  | group =>
    have hother : ¬(ChatType.group.text = ChatType.direct.text) := by decide
    simp [hother, hcolon, hgiven]
  | channel =>
    have hother : ¬(ChatType.channel.text = ChatType.direct.text) := by decide
    simp [hother, hcolon, hgiven]

end Conversation

section Pair

variable {casing} {dmScope : DmScope} {a b : Conversation}

theorem collide_of_keyRest (hagent : a.agentId = b.agentId) (ha : a.Normalised casing)
    (hb : b.Normalised casing) (hscope : dmScope ≠ .main) (hdirect : a.peerKind = .direct)
    (hother : b.peerKind ≠ .direct)
    (hrest : a.keyRest casing dmScope = b.keyRest casing dmScope) :
    Collide casing dmScope a b := by
  refine ⟨hdirect, hother, hagent, ?_⟩
  rw [keyRest_of_not_direct casing dmScope hother] at hrest
  unfold Conversation.keyRest at hrest
  rw [hdirect] at hrest
  cases dmScope with
  | main => exact absurd rfl hscope
  | perPeer =>
    obtain ⟨hchannel, hpeer⟩ := eq_of_append_colon (by decide) hb.channelColonFree hrest
    exact ⟨hchannel.symm, hpeer⟩
  | perChannelPeer =>
    obtain ⟨_, hkinds⟩ := eq_of_append_colon ha.channelColonFree hb.channelColonFree hrest
    have htext := (eq_of_append_colon (by decide) (colon_notMem_kind _) hkinds).1
    have hkind : ChatType.direct = b.peerKind := kind_of_text htext
    exact absurd hkind.symm hother
  | perAccountChannelPeer =>
    obtain ⟨hchannel, haccounts⟩ := eq_of_append_colon ha.channelColonFree hb.channelColonFree hrest
    obtain ⟨haccount, hpeer⟩ :=
      eq_of_append_colon ha.accountId_colonFree (colon_notMem_kind _) haccounts
    exact ⟨hchannel, haccount, hpeer.symm⟩

theorem keyRest_of_collide (hcollide : Collide casing dmScope a b) :
    a.keyRest casing dmScope = b.keyRest casing dmScope := by
  obtain ⟨hdirect, hother, _, hfields⟩ := hcollide
  rw [keyRest_of_not_direct casing dmScope hother]
  unfold Conversation.keyRest
  rw [hdirect]
  cases dmScope with
  | main => exact hfields.elim
  | perPeer =>
    obtain ⟨hchannel, hpeer⟩ := hfields
    simp only [hchannel, hpeer]
  | perChannelPeer => exact hfields.elim
  | perAccountChannelPeer =>
    obtain ⟨hchannel, haccount, hpeer⟩ := hfields
    simp only [hchannel, haccount, hpeer]

theorem same_of_keyRest (hagent : a.agentId = b.agentId) (ha : a.Normalised casing)
    (hb : b.Normalised casing) (hscope : dmScope ≠ .main)
    (hkinds : a.peerKind = .direct ↔ b.peerKind = .direct)
    (hrest : a.keyRest casing dmScope = b.keyRest casing dmScope) :
    SameConversation casing dmScope a b := by
  by_cases hdirect : a.peerKind = .direct
  · have hboth := hkinds.mp hdirect
    unfold Conversation.keyRest at hrest
    rw [hdirect, hboth] at hrest
    have hsame := hdirect.trans hboth.symm
    cases dmScope with
    | main => exact absurd rfl hscope
    | perPeer =>
      have hpeer := (eq_of_append_colon (by decide) (by decide) hrest).2
      exact ⟨hagent, .inr ⟨hdirect, rfl⟩, hsame, hpeer, fun _ hfalse => by cases hfalse⟩
    | perChannelPeer =>
      obtain ⟨hchannel, hrest⟩ := eq_of_append_colon ha.channelColonFree hb.channelColonFree hrest
      have hpeer := (eq_of_append_colon (by decide) (by decide) hrest).2
      exact ⟨hagent, .inl hchannel, hsame, hpeer, fun _ hfalse => by cases hfalse⟩
    | perAccountChannelPeer =>
      obtain ⟨hchannel, hrest⟩ := eq_of_append_colon ha.channelColonFree hb.channelColonFree hrest
      obtain ⟨haccount, hrest⟩ :=
        eq_of_append_colon ha.accountId_colonFree hb.accountId_colonFree hrest
      have hpeer := (eq_of_append_colon (by decide) (by decide) hrest).2
      exact ⟨hagent, .inl hchannel, hsame, hpeer, fun _ _ => haccount⟩
  · rw [keyRest_of_not_direct casing dmScope hdirect,
      keyRest_of_not_direct casing dmScope (fun hother => hdirect (hkinds.mpr hother))] at hrest
    obtain ⟨hchannel, hrest⟩ := eq_of_append_colon ha.channelColonFree hb.channelColonFree hrest
    obtain ⟨hkind, hpeer⟩ := eq_of_append_colon (colon_notMem_kind _) (colon_notMem_kind _) hrest
    exact ⟨hagent, .inl hchannel, kind_of_text hkind, hpeer, fun hfalse => absurd hfalse hdirect⟩

theorem colon_mem_keyRest (conversation : Conversation) (hscope : dmScope ≠ .main) :
    0x3A ∈ conversation.keyRest casing dmScope := by
  unfold Conversation.keyRest
  cases conversation.peerKind with
  | direct =>
    cases dmScope with
    | main => exact absurd rfl hscope
    | perPeer => simp
    | perChannelPeer => simp
    | perAccountChannelPeer => simp
  | group => simp
  | channel => simp

theorem key_ne_main (ha : a.Normalised casing) (hscope : dmScope ≠ .main)
    {mainKey : Option JsString} (hmain : 0x3A ∉ casing.normalizeMainKey mainKey)
    (agentId : JsString) :
    a.key casing dmScope mainKey ≠ casing.buildAgentMainSessionKey agentId mainKey := by
  intro hkey
  have hcolon : js ":" = [0x3A] := by decide
  rw [Conversation.key_eq ha hscope] at hkey
  unfold Casing.buildAgentMainSessionKey at hkey
  rw [hcolon, List.append_assoc, List.append_assoc, List.singleton_append] at hkey
  have hrest := (eq_of_append_colon ha.agentId_colonFree
    (colon_notMem_of_ids (mem_normalizeAgentId casing _)) (List.append_cancel_left hkey)).2
  exact hmain (hrest ▸ colon_mem_keyRest a hscope)

end Pair

/-- Only the same conversations share a key, and none has a main session key. -/
structure KeySeparated (dmScope : DmScope) (mainKey : Option JsString) (a b : Conversation) :
    Prop where
  distinct : a.key casing dmScope mainKey = b.key casing dmScope mainKey →
    SameConversation casing dmScope a b
  notMain : ∀ agentId,
    a.key casing dmScope mainKey ≠ casing.buildAgentMainSessionKey agentId mainKey

/-- Conversations are kept apart by their keys if and only if they do not collide. -/
theorem keySeparated_iff {dmScope : DmScope} (hscope : dmScope ≠ .main)
    {mainKey : Option JsString} (hmain : 0x3A ∉ casing.normalizeMainKey mainKey)
    {a b : Conversation} (ha : a.Normalised casing) (hb : b.Normalised casing) :
    KeySeparated casing dmScope mainKey a b ↔
      ¬Collide casing dmScope a b ∧ ¬Collide casing dmScope b a := by
  have hkeys : a.key casing dmScope mainKey = b.key casing dmScope mainKey ↔
      a.agentId = b.agentId ∧ a.keyRest casing dmScope = b.keyRest casing dmScope := by
    rw [Conversation.key_eq ha hscope, Conversation.key_eq hb hscope]
    constructor
    · intro hkey
      exact eq_of_append_colon ha.agentId_colonFree hb.agentId_colonFree
        (List.append_cancel_left hkey)
    · rintro ⟨hagent, hrest⟩
      rw [hagent, hrest]
  constructor
  · intro hseparated
    constructor
    · intro hcollide
      have hsame := hseparated.distinct (hkeys.mpr ⟨hcollide.2.2.1, keyRest_of_collide hcollide⟩)
      exact hcollide.2.1 (hsame.peerKind ▸ hcollide.1)
    · intro hcollide
      have hsame := hseparated.distinct
        (hkeys.mpr ⟨hcollide.2.2.1.symm, (keyRest_of_collide hcollide).symm⟩)
      exact hcollide.2.1 (hsame.peerKind ▸ hcollide.1)
  · rintro ⟨hforward, hbackward⟩
    refine ⟨?_, key_ne_main ha hscope hmain⟩
    intro hkey
    obtain ⟨hagent, hrest⟩ := hkeys.mp hkey
    by_cases hkinds : a.peerKind = .direct ↔ b.peerKind = .direct
    · exact same_of_keyRest hagent ha hb hscope hkinds hrest
    · by_cases hdirect : a.peerKind = .direct
      · have hother : b.peerKind ≠ .direct := fun hfalse => hkinds ⟨fun _ => hfalse, fun _ => hdirect⟩
        exact absurd (collide_of_keyRest hagent ha hb hscope hdirect hother hrest) hforward
      · have hother : b.peerKind = .direct := by
          by_contra hfalse
          exact hkinds ⟨fun htrue => absurd htrue hdirect, fun htrue => absurd htrue hfalse⟩
        exact absurd (collide_of_keyRest hagent.symm hb ha hscope hother hdirect hrest.symm)
          hbackward

def exampleCasing : Casing where
  toLowerCase := List.map asciiLower
  ascii := map_asciiLower_of_ascii

def directChat : Conversation where
  agentId := js "main"
  channel := js "slack"
  accountId := js "group"
  peerKind := .direct
  peerId := js "U42"

def groupChat (peerId : JsString) : Conversation where
  agentId := js "main"
  channel := js "slack"
  accountId := js "default"
  peerKind := .group
  peerId

theorem normalised_directChat : directChat.Normalised exampleCasing := by
  constructor
  all_goals decide

theorem normalised_groupChat_plain : (groupChat (js "C7")).Normalised exampleCasing := by
  constructor
  all_goals decide

theorem normalised_groupChat_reserved : (groupChat (js "direct:U42")).Normalised exampleCasing := by
  constructor
  all_goals decide

theorem keySeparated_plain :
    KeySeparated exampleCasing .perAccountChannelPeer none directChat (groupChat (js "C7")) :=
  (keySeparated_iff exampleCasing (by decide) (by decide) normalised_directChat
    normalised_groupChat_plain).mpr ⟨by
      rintro ⟨_, _, _, _, _, hpeer⟩
      exact absurd hpeer (by decide), fun hcollide => absurd hcollide.1 (by decide)⟩

/-- A direct chat and a group share a key. -/
theorem direct_chat_shares_key : directChat.Normalised exampleCasing ∧
      (groupChat (js "direct:U42")).Normalised exampleCasing ∧
      directChat.key exampleCasing .perAccountChannelPeer none =
        (groupChat (js "direct:U42")).key exampleCasing .perAccountChannelPeer none ∧
      directChat.peerKind ≠ (groupChat (js "direct:U42")).peerKind :=
  ⟨normalised_directChat, normalised_groupChat_reserved, by decide, by decide⟩

end LittleBaby.Routing
