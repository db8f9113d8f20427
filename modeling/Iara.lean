import Iara.Lib.Machine
import Iara.Lib.Interleaving
import Iara.Lib.Table
import Iara.Lib.Json
import Iara.Lib.PyStr
import Iara.Lib.PyUuid
import Iara.Lib.StateGraph
import Iara.Lib.Difflib
import Iara.Lib.Custody
import Iara.Lib.Noninterference
import Iara.Lib.EventLog
import Iara.Lib.ReadCommitted
import Iara.Lib.Availability
import Iara.Lib.PyDatetime
import Iara.Lib.PyLines
import Iara.Lib.PyJson
import Iara.Lib.Agreement
import Iara.Persistence.Outbox
import Iara.Persistence.FollowUp
import Iara.Persistence.HitlHolds
import Iara.Persistence.Leases
import Iara.Persistence.Receipts
import Iara.Persistence.OutboxQueue
import Iara.Persistence.FollowUpQueue
import Iara.Provider.Registry
import Iara.Provider.ChatwootAdapter
import Iara.Provider.Scheduling.GoogleCalendar
import Iara.Provider.Scheduling.WriteAdapters
import Iara.Provider.Requests
import Iara.Provider.McpServer
import Iara.Provider.Scheduling.Factory
import Iara.Eligibility.Decision
import Iara.Eligibility.Normalizer
import Iara.Security.CommandAuth
import Iara.Tools.PolicyGuard
import Iara.Tools.Gateway
import Iara.Tools.SkillResolver
import Iara.Tools.GatewayEffects
import Iara.Tools.Registry
import Iara.Tools.FollowUpCatalog
import Iara.Graph.State
import Iara.Graph.Edges
import Iara.Graph.Nodes.Intake
import Iara.Graph.Nodes.Agent
import Iara.Graph.Nodes.Guardrails
import Iara.Graph.Builder
import Iara.Graph.Frame
import Iara.Graph.Runs
import Iara.Graph.Loop
import Iara.Graph.ToolHistory
import Iara.Graph.Nodes.Dispatch
import Iara.Graph.Production
import Iara.Graph.Stores
import Iara.Memory.PostgresStore
import Iara.Memory.StoreCalls
import Iara.Memory.MemoryStore
import Iara.Workers.History
import Iara.Workers.JobConsumer
import Iara.Workers.Cluster
import Iara.Workers.ClusterSteps
import Iara.Workers.OutboxDrainer
import Iara.Workers.DrainSteps
import Iara.Workers.FollowUpScheduler
import Iara.Workers.PromotionSteps
import Iara.Workers.Wiring
import Iara.Workers.Pipeline
import Iara.Workers.RunSteps
import Iara.Workers.Reminders
import Iara.ConfigPublishing.Publisher
import Iara.ConfigPublishing.PublishSteps
import Iara.ConfigPublishing.Service
import Iara.ConfigPublishing.ServiceSteps
import Iara.ConfigPublishing.Ledger
import Iara.ConfigPublishing.Modes
import Iara.ConfigPublishing.MemoryMode
import Iara.ConfigPublishing.DatabaseMode
import Iara.Api.Webhooks
import Iara.Api.WebhookSteps
import Iara.Api.Reception
import Iara.Api.Chat
import Iara.Api.Config
import Iara.Api.Hitl
import Iara.Api.HitlSteps
import Iara.Proofs.ErrorRouting
import Iara.Proofs.IterationGuard
import Iara.Proofs.OneReply
import Iara.Proofs.Redelivery
import Iara.Proofs.ReleasedLease
import Iara.Proofs.Fencing
import Iara.Proofs.LeaseConflict
import Iara.Proofs.WebhookDedup
import Iara.Proofs.Debounce
import Iara.Proofs.ReceiptAtomicity
import Iara.Proofs.EffectivelyOnce
import Iara.Proofs.PromotedOnce
import Iara.Proofs.TenantDelivery
import Iara.Proofs.AdminRouting
import Iara.Proofs.ContentSurvival
import Iara.Proofs.ToolGate
import Iara.Proofs.TenantOfEffects
import Iara.Proofs.MemoryIsolation
import Iara.Proofs.HeldConversation
import Iara.Proofs.HitlDecisions
import Iara.Proofs.ParkedRun
import Iara.Proofs.ActivePublication
import Iara.Proofs.OptOut
import Iara.Proofs.DoubleBooking
import Iara.Proofs.GuardedReplies
import Iara.Proofs.AgentLoop
import Iara.Proofs.AnsweredHistory
import Iara.Proofs.HeldReply
import Iara.Proofs.SentApplied
import Iara.Proofs.HonestReadback
import Iara.Proofs.ClosedRouting
import Iara.Proofs.LabelUnion
import Iara.Proofs.StoresAgree
import Iara.Proofs.Erasure
import Iara.Proofs.PrivateNotes
import Iara.Proofs.ConversationIdentity
import Iara.Proofs.PublishableDrafts
import Iara.Proofs.PublishModes
import Iara.Proofs.RetryAccounting
import Iara.Proofs.DrainProgress
import Iara.Proofs.FirstFreeSlot
import Iara.Proofs.QuietHours
import Iara.Proofs.McpSuccess
import Iara.Proofs.ScheduledFollowUp
import Iara.Proofs.CommandReference
import Iara.Proofs.EventKeys
import Iara.Proofs.BotLoop
import Iara.Proofs.ValueRedaction
import Iara.Proofs.FieldRedaction
import Iara.Proofs.KanbanStages
import Iara.Proofs.AvailabilityAnswers
import Iara.Proofs.BlockedTerms
import Iara.Proofs.InvalidationBarrier
import Iara.Lib.PyRepr
import Iara.Lib.JsonValue
import Iara.Lib.JsonRepr
import Iara.Lib.JsonText
import Iara.Lib.JsonScan
import Iara.Lib.JsonLoads
import Iara.Lib.JsonSound
import Iara.Proofs.ConfigHash
import Iara.Lib.Batch
import Iara.Workers.SoloScheduler
import Iara.Workers.SoloQueue
import Iara.Proofs.BoundedPromotion
import Iara.Messaging.Publisher
import Iara.Messaging.Consumer
import Iara.Workers.Handling
import Iara.Api.Extraction
import Iara.Proofs.JobWire
import Iara.Lib.AmqpTopology
import Iara.Lib.AmqpBroker
import Iara.Messaging.Topology
import Iara.Proofs.JobCustody
import Iara.Lib.PyBytes
import Iara.Media.Subgraph
import Iara.Media.Policy
import Iara.Proofs.ModelPrompt
import Iara.Proofs.MediaRequests
import Iara.Workers.Remembering
import Iara.Proofs.MemoryOfJobs
import Iara.Proofs.ChatThreads
import Iara.Proofs.ChatReplies
import Iara.Proofs.Provenance
import Iara.Lib.Turns
import Iara.Proofs.SequentialRuns
