import LittleBaby.JsNumber
import LittleBaby.JsString

/-!
# Feishu message events

Inbound events as `parseMessagePayload` lets them through, and the pure
functions of `feishu-service.ts` that read them: who sent a message, which
conversation it belongs to, whether the bot is addressed, and how a reply is
cut into chunks.
-/

namespace LittleBaby.Feishu

open JsString

structure SenderId where
  openId : Option JsString
  userId : Option JsString
  unionId : Option JsString
  deriving DecidableEq

inductive ChatType where
  | p2p
  | group
  | private_
  deriving DecidableEq

structure Mention where
  key : Option JsString
  name : Option JsString
  id : SenderId
  deriving DecidableEq

structure FeishuMessageEvent where
  senderId : SenderId
  senderType : Option JsString
  messageId : JsString
  chatId : JsString
  chatType : ChatType
  messageType : JsString
  content : JsString
  rootId : Option JsString
  parentId : Option JsString
  threadId : Option JsString
  mentions : List Mention
  deriving DecidableEq

/-- The part of `FeishuConfig` that the message path reads, its two lists as
`readStringArray` returns them. -/
structure FeishuConfig where
  groupPolicy : Option JsString
  groupAllowFrom : List JsString
  groupDenyFrom : List JsString
  textChunkLimit : Option JsNumber

structure ResolvedFeishuAccount where
  accountId : JsString
  config : FeishuConfig

/-- The result of `parseMessageText`, which the service calls on an event, is
left open: nothing below depends on how the text is read from the content. -/
structure ServiceEnv where
  account : ResolvedFeishuAccount
  botOpenId : Option JsString
  botName : Option JsString
  /-- whether a `MysqlMemoryStore` is connected -/
  memory : Bool
  parseMessageText : FeishuMessageEvent → JsString

/-- `open_id || user_id || union_id`. -/
def SenderId.first (id : SenderId) : Option JsString :=
  orElse id.openId (orElse id.userId (orElse id.unionId none))

variable (event : FeishuMessageEvent)

def senderIdFor : Option JsString := event.senderId.first

def senderLabel : JsString := event.senderId.first.getD (js "user")

def sessionKeyFor (accountId : JsString) : JsString :=
  match event.chatType with
  | .group =>
    let thread := orElse event.rootId (orElse event.threadId none)
    js "feishu:" ++ accountId ++ js ":group:" ++ event.chatId ++ match thread with
      | some thread => js ":thread:" ++ thread
      | none => []
  | _ =>
    js "feishu:" ++ accountId ++ js ":dm:" ++ event.senderId.first.getD event.chatId

/-- `senderIdFor(event) ?? "unknown"`, the key of buffers and sessions. -/
def senderKey : JsString := (senderIdFor event).getD (js "unknown")

def isSenderAllowed (config : FeishuConfig) (event : FeishuMessageEvent) :
    Bool :=
  match event.chatType with
  | .group =>
    let ids := ([some event.chatId, event.senderId.openId,
      event.senderId.userId, event.senderId.unionId].filterMap id).filter fun id => !id.isEmpty
    if config.groupDenyFrom.any fun id => ids.contains id then false
    else if config.groupPolicy = some (js "allowlist") ∧ config.groupAllowFrom ≠ [] then
      config.groupAllowFrom.any fun id => ids.contains id
    else true
  | _ => true

def Mention.addresses (botOpenId botName : Option JsString) (mention : Mention) : Bool :=
  (botOpenId.any fun id => !id.isEmpty && mention.id.openId == some id) || botName.any fun name =>
      !name.isEmpty && mention.name.any fun text => includes text name

def isBotMentioned (env : ServiceEnv) (event : FeishuMessageEvent) : Bool :=
  match event.chatType with
  | .group =>
    event.mentions.any (Mention.addresses env.botOpenId env.botName) ||
      includes (env.parseMessageText event) (js "小橘") ||
      env.botName.any fun name =>
        !name.isEmpty && includes (env.parseMessageText event) name
  | _ => true

def triggerWords : List JsString := [js "小橘", js "小金橘", js "小桔"]

inductive PreFilterResult where
  | aggregate
  | storeOnly

/-- `rulePreFilter`.  No code calls `recordBotMessageId`, so that
`isReplyToBotMessage` is false for every event; and `toLowerCase` leaves the
trigger words and all their occurrences as they are. -/
def rulePreFilter (text : JsString) (mentioned : Bool) : PreFilterResult :=
  if mentioned then .aggregate
  else if event.chatType ≠ .group then .aggregate
  else if triggerWords.any (includes text) then .aggregate
  else .storeOnly

structure ImageData where
  filePath : JsString
  deriving DecidableEq

structure ParsedMessage where
  text : JsString
  images : List ImageData
  imagePaths : List JsString
  deriving DecidableEq

/-- `parseMessageWithImages`, given the images that were downloaded. -/
def parseMessageWithImages (env : ServiceEnv) (event : FeishuMessageEvent)
    (downloads : List ImageData) : ParsedMessage :=
  if event.messageType = js "image" then
    { text := js "[用户发送了一张图片]"
      images := downloads.take 1
      imagePaths := (downloads.take 1).map ImageData.filePath }
  else
    let images := if event.messageType = js "post" then downloads else []
    { text := env.parseMessageText event
      images := images
      imagePaths := images.map ImageData.filePath }

/-- What `handleMessage` appends to the history for a message. -/
def historyContent (message : ParsedMessage) : JsString :=
  if message.imagePaths.length > 0 then
    message.text ++ js "\n[图片文件: " ++ join (js ", ") message.imagePaths ++ js "]"
  else message.text

theorem historyContent_of_no_images {message : ParsedMessage} (hpaths : message.imagePaths = []) :
    historyContent message = message.text := by
  simp [historyContent, hpaths]

def defaultChunkLimit : ℕ := 3800

/-- The `limit` of `chunkReply`. -/
def chunkLimit (config : FeishuConfig) : ℕ :=
  match config.textChunkLimit with
  | some (.finite value) =>
    if 0 < value then min ⌊value⌋.toNat defaultChunkLimit
    else defaultChunkLimit
  | _ => defaultChunkLimit

def chunkLine (limit : ℕ) (line : JsString) : List JsString :=
  if trim line = [] then []
  else if (trim line).length ≤ limit then [trim line]
  else (trim line).toChunks limit

/-- `chunkReply`; with a limit of zero its inner loop never ends. -/
def chunkReply (text : JsString) (config : FeishuConfig) : Option (List JsString) :=
  let limit := chunkLimit config
  let source := trim text
  if source = [] then some []
  else if limit = 0 then none
  else
    let chunks := (source.splitOn 0x0A).flatMap (chunkLine limit)
    if chunks = [] then some [source] else some chunks

theorem chunkReply_ne_nil {text : JsString} {config : FeishuConfig}
    {chunks : List JsString} (htext : trim text ≠ [])
    (hchunks : chunkReply text config = some chunks) : chunks ≠ [] := by
  unfold chunkReply at hchunks
  simp only [htext, if_false] at hchunks
  split_ifs at hchunks with hlimit hempty
  · rw [← Option.some.inj hchunks]
    exact List.cons_ne_nil _ _
  · rw [← Option.some.inj hchunks]
    exact hempty

end LittleBaby.Feishu
