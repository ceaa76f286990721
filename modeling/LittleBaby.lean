import LittleBaby.AggregatorRuns
import LittleBaby.ArgPatterns
import LittleBaby.AuthProfileExpiry
import LittleBaby.AuthProfileScopes
import LittleBaby.AuthRateLimitRuns
import LittleBaby.BalancedJson
import LittleBaby.BlockReplyConservation
import LittleBaby.ChatMerging
import LittleBaby.CommandQueueProgress
import LittleBaby.CommandQueueSafety
import LittleBaby.CompactionTurns
import LittleBaby.ConfigPatchInverse
import LittleBaby.ConfigPersist
import LittleBaby.ContextDocuments
import LittleBaby.CronExclusion
import LittleBaby.CronIntervals
import LittleBaby.CronOneShot
import LittleBaby.CronSlots
import LittleBaby.DeliveryClaims
import LittleBaby.DeviceTokens
import LittleBaby.DiskBudgetExact
import LittleBaby.EnvReferences
import LittleBaby.ExecApprovalRuns
import LittleBaby.ExecInlineRuns
import LittleBaby.ExecTrustSoundness
import LittleBaby.FeishuAccess
import LittleBaby.FeishuAiTurn
import LittleBaby.FeishuChunks
import LittleBaby.FeishuConservation
import LittleBaby.FeishuHistory
import LittleBaby.FeishuIntake
import LittleBaby.FeishuIsolation
import LittleBaby.FeishuTimeout
import LittleBaby.FeishuToolLoop
import LittleBaby.FollowupAuthority
import LittleBaby.InboundDebounceOrder
import LittleBaby.InboundDedupe
import LittleBaby.ModelFallbackSearch
import LittleBaby.PairingImmutability
import LittleBaby.QueueBounds
import LittleBaby.QueueConservation
import LittleBaby.QueueProgress
import LittleBaby.RedactRoundTrip
import LittleBaby.RenderAwareSafety
import LittleBaby.ReplyDispatcherOrder
import LittleBaby.ReplyRunLifeCycle
import LittleBaby.RouteIsolation
import LittleBaby.SafeBinAcceptance
import LittleBaby.SemverCompare
import LittleBaby.SessionKeySeparation
import LittleBaby.SessionTruncationIntegrity
import LittleBaby.TaskFinality
import LittleBaby.TaskFlowSettling
import LittleBaby.TaskIndexes
import LittleBaby.TaskMirrorRuns
import LittleBaby.TaskStoreFailures
import LittleBaby.ToolCallIdPairing
import LittleBaby.ToolLoopAlternation
import LittleBaby.ToolResultTruncation
import LittleBaby.TranscriptStability
