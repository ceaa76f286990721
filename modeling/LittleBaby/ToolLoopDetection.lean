import LittleBaby.JsNumber
import LittleBaby.JsString

/-!
# Detection of tool loops

Calls are told apart by their hash, results by theirs.  All counts are computed
anew from a window of the last calls.
-/

namespace LittleBaby.ToolLoops

open JsString

inductive LoopDetectorKind
  | genericRepeat
  | unknownToolRepeat
  | knownPollNoProgress
  | globalCircuitBreaker
  | pingPong

inductive LoopLevel
  | warning
  | critical
  deriving DecidableEq

structure LoopDetection where
  level : LoopLevel
  detector : LoopDetectorKind
  count : ℕ
  message : JsString
  pairedToolName : Option JsString := none
  warningKey : JsString

structure ToolHashes (TParams TResult TError : Type) where
  hashToolCall : JsString → TParams → JsString
  pollAction : TParams → Option JsString
  digestResult : JsString → TParams → TResult → JsString
  digestError : TError → JsString
  extractUnknownToolName : TError → Option JsString
  hashToolCall_ne_nil : ∀ toolName params, hashToolCall toolName params ≠ []
  digestResult_ne_nil : ∀ toolName params result, digestResult toolName params result ≠ []

variable {TParams TResult TError : Type} (hashes : ToolHashes TParams TResult TError)

structure ToolLoopDetectionConfig where
  enabled : Option Bool := none
  historySize : Option JsNumber := none
  warningThreshold : Option JsNumber := none
  unknownToolThreshold : Option JsNumber := none
  criticalThreshold : Option JsNumber := none
  globalCircuitBreakerThreshold : Option JsNumber := none
  genericRepeat : Option Bool := none
  knownPollNoProgress : Option Bool := none
  pingPong : Option Bool := none

structure ResolvedLoopDetectionConfig where
  enabled : Bool
  historySize : ℕ
  warningThreshold : ℕ
  unknownToolThreshold : ℕ
  criticalThreshold : ℕ
  globalCircuitBreakerThreshold : ℕ
  genericRepeat : Bool
  knownPollNoProgress : Bool
  pingPong : Bool

def asPositiveInt (value : Option JsNumber) (fallback : ℕ) : ℕ :=
  match value with
  | some (.finite value) =>
    if value.den = 1 ∧ 0 < value then value.num.toNat else fallback
  | _ => fallback

def resolveLoopDetectionConfig (config : ToolLoopDetectionConfig) :
    ResolvedLoopDetectionConfig :=
  let warningThreshold := asPositiveInt config.warningThreshold 10
  let criticalThreshold := asPositiveInt config.criticalThreshold 20
  let globalCircuitBreakerThreshold := asPositiveInt config.globalCircuitBreakerThreshold 30
  let criticalThreshold :=
    if criticalThreshold ≤ warningThreshold then warningThreshold + 1
    else criticalThreshold
  let globalCircuitBreakerThreshold :=
    if globalCircuitBreakerThreshold ≤ criticalThreshold then criticalThreshold + 1
    else globalCircuitBreakerThreshold
  { enabled := config.enabled.getD false
    historySize := asPositiveInt config.historySize 30
    warningThreshold := warningThreshold
    unknownToolThreshold := asPositiveInt config.unknownToolThreshold 10
    criticalThreshold := criticalThreshold
    globalCircuitBreakerThreshold := globalCircuitBreakerThreshold
    genericRepeat := config.genericRepeat.getD true
    knownPollNoProgress := config.knownPollNoProgress.getD true
    pingPong := config.pingPong.getD true }

theorem asPositiveInt_pos (value : Option JsNumber) {fallback : ℕ}
    (hfallback : 0 < fallback) : 0 < asPositiveInt value fallback := by
  unfold asPositiveInt
  split
  · next value =>
      split_ifs with hvalue
      · have hnum := Rat.num_pos.mpr hvalue.2
        omega
      · exact hfallback
  · exact hfallback

theorem thresholds_ordered (config : ToolLoopDetectionConfig) :
    let resolved := resolveLoopDetectionConfig config
    0 < resolved.historySize ∧ 0 < resolved.warningThreshold ∧
      resolved.warningThreshold < resolved.criticalThreshold ∧
      resolved.criticalThreshold < resolved.globalCircuitBreakerThreshold := by
  have hwarning := asPositiveInt_pos config.warningThreshold (by decide : 0 < 10)
  have hhistory := asPositiveInt_pos config.historySize (by decide : 0 < 30)
  unfold resolveLoopDetectionConfig
  simp only
  refine ⟨hhistory, hwarning, ?_, ?_⟩ <;> split_ifs <;> omega

structure ToolCallRecord where
  toolName : JsString
  argsHash : JsString
  toolCallId : Option JsString
  resultHash : Option JsString := none
  unknownToolName : Option JsString := none

def truthy (text : Option JsString) : Bool := text.any (· ≠ [])

/-- The outcome of a call; `undefined` is `none`. -/
structure ToolOutcome (TResult TError : Type) where
  result : Option TResult
  error : Option TError

variable (history : List ToolCallRecord) (toolName : JsString)
  (params : TParams)

def isKnownPollToolCall : Bool :=
  if toolName = js "command_status" then true
  else if toolName ≠ js "process" then false
  else
    hashes.pollAction params = some (js "poll") ∨ hashes.pollAction params = some (js "log")

def hashToolOutcome (outcome : ToolOutcome TResult TError) : Option JsString × Option JsString :=
  match outcome.error with
  | some error =>
    (some (js "error:" ++ hashes.digestError error), hashes.extractUnknownToolName error)
  | none =>
    match outcome.result with
    | none => (none, none)
    | some result => (some (hashes.digestResult toolName params result), none)

structure UnknownToolStreak where
  count : ℕ := 0
  unknownToolName : Option JsString := none

def unknownToolLoop (toolName : JsString) (found : UnknownToolStreak) :
    List ToolCallRecord → UnknownToolStreak
  | [] => found
  | record :: earlier =>
    if record.toolName ≠ toolName ∨ !truthy record.unknownToolName then found
    else if !truthy found.unknownToolName then
      unknownToolLoop toolName ⟨1, record.unknownToolName⟩ earlier
    else if record.unknownToolName ≠ found.unknownToolName then found
    else unknownToolLoop toolName { found with count := found.count + 1 } earlier

def getUnknownToolRepeatStreak : UnknownToolStreak := unknownToolLoop toolName {} history.reverse

structure NoProgressStreak where
  count : ℕ := 0
  latestResultHash : Option JsString := none

def noProgressLoop (toolName argsHash : JsString) (found : NoProgressStreak) :
    List ToolCallRecord → NoProgressStreak
  | [] => found
  | record :: earlier =>
    if record.toolName ≠ toolName ∨ record.argsHash ≠ argsHash then
      noProgressLoop toolName argsHash found earlier
    else if !truthy record.resultHash then
      noProgressLoop toolName argsHash found earlier
    else if !truthy found.latestResultHash then
      noProgressLoop toolName argsHash ⟨1, record.resultHash⟩ earlier
    else if record.resultHash ≠ found.latestResultHash then found
    else
      noProgressLoop toolName argsHash { found with count := found.count + 1 } earlier

def getNoProgressStreak (argsHash : JsString) : NoProgressStreak :=
  noProgressLoop toolName argsHash {} history.reverse

structure PingPongStreak where
  count : ℕ := 0
  pairedToolName : Option JsString := none
  pairedSignature : Option JsString := none
  noProgressEvidence : Bool := false

/-- How many records, from the end, have the two signatures in turn. -/
def alternatingTail (expected other : JsString) : List ToolCallRecord → ℕ
  | [] => 0
  | record :: earlier =>
    if record.argsHash ≠ expected then 0
    else alternatingTail other expected earlier + 1

structure PingPongEvidence where
  firstHashA : Option JsString := none
  firstHashB : Option JsString := none
  noProgressEvidence : Bool := true

def evidenceLoop (signatureA signatureB : JsString) (found : PingPongEvidence) :
    List ToolCallRecord → PingPongEvidence
  | [] => found
  | record :: later =>
    if !truthy record.resultHash then { found with noProgressEvidence := false }
    else if record.argsHash = signatureA then
      if !truthy found.firstHashA then
        evidenceLoop signatureA signatureB { found with firstHashA := record.resultHash } later
      else if found.firstHashA ≠ record.resultHash then
        { found with noProgressEvidence := false }
      else evidenceLoop signatureA signatureB found later
    else if record.argsHash = signatureB then
      if !truthy found.firstHashB then
        evidenceLoop signatureA signatureB { found with firstHashB := record.resultHash } later
      else if found.firstHashB ≠ record.resultHash then
        { found with noProgressEvidence := false }
      else evidenceLoop signatureA signatureB found later
    else { found with noProgressEvidence := false }

def getPingPongStreak (currentSignature : JsString) : PingPongStreak :=
  match history.reverse with
  | [] => {}
  | last :: earlier =>
    match earlier.find? fun call => call.argsHash ≠ last.argsHash with
    | none => {}
    | some other =>
      if other.argsHash = [] ∨ other.toolName = [] then {}
      else
        let alternatingTailCount := alternatingTail last.argsHash other.argsHash history.reverse
        if alternatingTailCount < 2 then {}
        else if currentSignature ≠ other.argsHash then {}
        else
          let evidence := evidenceLoop last.argsHash other.argsHash {}
            (history.drop (history.length - alternatingTailCount))
          { count := alternatingTailCount + 1
            pairedToolName := some last.toolName
            pairedSignature := some last.argsHash
            noProgressEvidence := evidence.noProgressEvidence &&
              truthy evidence.firstHashA && truthy evidence.firstHashB }

def canonicalPairKey (signatureA signatureB : JsString) : JsString :=
  if signatureB < signatureA then signatureB ++ js "|" ++ signatureA
  else signatureA ++ js "|" ++ signatureB

def decimal (count : ℕ) : JsString := js (toString count)

section Detectors

variable (config : ResolvedLoopDetectionConfig) (history : List ToolCallRecord)
  (toolName : JsString) (params : TParams)

def detectUnknownTool : Option LoopDetection :=
  let streak := getUnknownToolRepeatStreak history toolName
  let unknownName := streak.unknownToolName.getD toolName
  if config.unknownToolThreshold ≤ streak.count then
    some
      { level := .critical
        detector := .unknownToolRepeat
        count := streak.count
        message := js "CRITICAL: attempted unavailable tool " ++ unknownName ++ js " " ++
          decimal streak.count ++
          js " times. Stop retrying that missing tool and answer without it."
        warningKey := js "unknown-tool:" ++ toolName ++ js ":" ++
          streak.unknownToolName.getD (js "unknown") }
  else none

def detectGlobalBreaker (currentHash : JsString) : Option LoopDetection :=
  let noProgress := getNoProgressStreak history toolName currentHash
  if config.globalCircuitBreakerThreshold ≤ noProgress.count then
    some
      { level := .critical
        detector := .globalCircuitBreaker
        count := noProgress.count
        message := js "CRITICAL: " ++ toolName ++
          js " has repeated identical no-progress outcomes " ++ decimal noProgress.count ++
          js " times. Session execution blocked by global circuit breaker to prevent runaway loops."
        warningKey := js "global:" ++ toolName ++ js ":" ++ currentHash ++ js ":" ++
          noProgress.latestResultHash.getD (js "none") }
  else none

def detectPolling (currentHash : JsString) : Option LoopDetection :=
  let noProgress := getNoProgressStreak history toolName currentHash
  let warningKey := js "poll:" ++ toolName ++ js ":" ++ currentHash ++ js ":" ++
    noProgress.latestResultHash.getD (js "none")
  if isKnownPollToolCall hashes toolName params && config.knownPollNoProgress &&
      config.criticalThreshold ≤ noProgress.count then
    some
      { level := .critical
        detector := .knownPollNoProgress
        count := noProgress.count
        message := js "CRITICAL: Called " ++ toolName ++
          js " with identical arguments and no progress " ++ decimal noProgress.count ++
          js " times. This appears to be a stuck polling loop. Session execution blocked to prevent resource waste."
        warningKey := warningKey }
  else if isKnownPollToolCall hashes toolName params && config.knownPollNoProgress &&
      config.warningThreshold ≤ noProgress.count then
    some
      { level := .warning
        detector := .knownPollNoProgress
        count := noProgress.count
        message := js "WARNING: You have called " ++ toolName ++ js " " ++
          decimal noProgress.count ++
          js " times with identical arguments and no progress. Stop polling and either (1) increase wait time between checks, or (2) report the task as failed if the process is stuck."
        warningKey := warningKey }
  else none

def detectPingPong (currentHash : JsString) : Option LoopDetection :=
  let pingPong := getPingPongStreak history currentHash
  let warningKey := js "pingpong:" ++
    match pingPong.pairedSignature with
    | some (unit :: rest) => canonicalPairKey currentHash (unit :: rest)
    | _ => toolName ++ js ":" ++ currentHash
  if config.pingPong && config.criticalThreshold ≤ pingPong.count &&
      pingPong.noProgressEvidence then
    some
      { level := .critical
        detector := .pingPong
        count := pingPong.count
        message := js "CRITICAL: You are alternating between repeated tool-call patterns (" ++
          decimal pingPong.count ++
          js " consecutive calls) with no progress. This appears to be a stuck ping-pong loop. Session execution blocked to prevent resource waste."
        pairedToolName := pingPong.pairedToolName
        warningKey := warningKey }
  else if config.pingPong && config.warningThreshold ≤ pingPong.count then
    some
      { level := .warning
        detector := .pingPong
        count := pingPong.count
        message := js "WARNING: You are alternating between repeated tool-call patterns (" ++
          decimal pingPong.count ++
          js " consecutive calls). This looks like a ping-pong loop; stop retrying and report the task as failed."
        pairedToolName := pingPong.pairedToolName
        warningKey := warningKey }
  else none

def detectGenericRepeat (currentHash : JsString) : Option LoopDetection :=
  let recentCount := (history.filter fun call =>
    call.toolName = toolName ∧ call.argsHash = currentHash).length
  if !isKnownPollToolCall hashes toolName params && config.genericRepeat &&
      config.warningThreshold ≤ recentCount then
    some
      { level := .warning
        detector := .genericRepeat
        count := recentCount
        message := js "WARNING: You have called " ++ toolName ++ js " " ++ decimal recentCount ++
          js " times with identical arguments. If this is not making progress, stop retrying and report the task as failed."
        warningKey := js "generic:" ++ toolName ++ js ":" ++ currentHash }
  else none

end Detectors

/-- The first detector that finds a loop; `none` is `{ stuck: false }`. -/
def detectToolCallLoop (config : ToolLoopDetectionConfig) : Option LoopDetection :=
  let resolved := resolveLoopDetectionConfig config
  if !resolved.enabled then none
  else
    let currentHash := hashes.hashToolCall toolName params
    (detectUnknownTool resolved history toolName).or <|
      (detectGlobalBreaker resolved history toolName currentHash).or <|
        (detectPolling hashes resolved history toolName params currentHash).or <|
          (detectPingPong resolved history toolName currentHash).or <|
            detectGenericRepeat hashes resolved history toolName params currentHash

def recordToolCall (history : List ToolCallRecord) (toolName : JsString)
    (params : TParams) (toolCallId : Option JsString) (config : ToolLoopDetectionConfig) :
    List ToolCallRecord :=
  let record : ToolCallRecord :=
    { toolName := toolName
      argsHash := hashes.hashToolCall toolName params
      toolCallId := toolCallId }
  let pushed := history ++ [record]
  if (resolveLoopDetectionConfig config).historySize < pushed.length then pushed.drop 1
  else pushed

def ToolCallRecord.awaits (argsHash : JsString) (toolCallId : Option JsString)
    (call : ToolCallRecord) : Bool :=
  (!truthy toolCallId || call.toolCallId = toolCallId) &&
    (call.toolName = toolName && call.argsHash = argsHash && call.resultHash = none)

/-- The records with the last one that awaits the outcome filled in, or `none`; the
list is read from its end. -/
def fillOutcome (awaits : ToolCallRecord → Bool) (resultHash : JsString)
    (unknownToolName : Option JsString) :
    List ToolCallRecord → Option (List ToolCallRecord)
  | [] => none
  | call :: earlier =>
    if awaits call then
      some ({ call with
        resultHash := some resultHash
        unknownToolName := unknownToolName } :: earlier)
    else (fillOutcome awaits resultHash unknownToolName earlier).map (call :: ·)

def recordToolCallOutcome (history : List ToolCallRecord) (toolName : JsString)
    (params : TParams) (toolCallId : Option JsString)
    (outcome : ToolOutcome TResult TError) (config : ToolLoopDetectionConfig) :
    List ToolCallRecord :=
  let hashed := hashToolOutcome hashes toolName params outcome
  match hashed.1 with
  | none => history
  | some resultHash =>
    if resultHash = [] then history
    else
      let argsHash := hashes.hashToolCall toolName params
      let filled :=
        match fillOutcome (ToolCallRecord.awaits toolName argsHash toolCallId)
            resultHash hashed.2 history.reverse with
        | some reversed => reversed.reverse
        | none =>
          let record : ToolCallRecord :=
            { toolName := toolName
              argsHash := argsHash
              toolCallId := toolCallId
              resultHash := some resultHash
              unknownToolName := hashed.2 }
          history ++ [record]
      filled.drop (filled.length - (resolveLoopDetectionConfig config).historySize)

end LittleBaby.ToolLoops
