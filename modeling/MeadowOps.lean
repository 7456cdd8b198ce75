import MeadowOps.Flow.Snapshots
import MeadowOps.Flow.Reconciliation
import MeadowOps.Flow.Allocation
import MeadowOps.Flow.AuditTrail
import MeadowOps.Flow.Deliveries
import MeadowOps.Simulation.LivedHistory
import MeadowOps.Simulation.SeededConflict
import MeadowOps.Simulation.ShortageRuns
import MeadowOps.Simulation.Causality
import MeadowOps.Simulation.FlagRuns
import MeadowOps.Simulation.TickLog
import MeadowOps.Records.Tiers
import MeadowOps.Sandbox.OneMoment
import MeadowOps.Exceptions.DuplicateOrders
import MeadowOps.Scheduler.RunTick
import MeadowOps.Exceptions.History
import MeadowOps.Scenarios.Edits
import MeadowOps.Scenarios.Gate
import MeadowOps.Scenarios.OneLive
import MeadowOps.Chat.Completion
import MeadowOps.Chat.Unread
import MeadowOps.Chat.TranscriptOrder
import MeadowOps.Chat.Deletion
import MeadowOps.Chat.DeadlineRace
import MeadowOps.Chat.Attachments
import MeadowOps.Query.SoftBoundary
import MeadowOps.Generation.Endings
import MeadowOps.Generation.Disclosure
import MeadowOps.Reporting.Mirror
import MeadowOps.Exceptions.LateFlags
import MeadowOps.Ledger.OperationalEvents
import MeadowOps.Simulation.WorldStates
import MeadowOps.Query.OneTransaction
import MeadowOps.Frontend.Confirmation
import MeadowOps.Frontend.OpenTranscript
import MeadowOps.Frontend.Composer
import MeadowOps.Dashboard.TransitionOrder
import MeadowOps.Flow.Completion
import MeadowOps.Simulation.TickCompletion
import MeadowOps.Exceptions.Completion
import MeadowOps.Ledger.Serialised
import MeadowOps.Exceptions.DuplicateLines
import MeadowOps.Kpi.SupplyWindow
import MeadowOps.Flow.Receipts
import MeadowOps.Flow.SnapshotPairs
import MeadowOps.Query.Tails
import MeadowOps.Generation.StoredQuery
import MeadowOps.Sandbox.LeftOver
import MeadowOps.Simulation.RepopulateJob
import MeadowOps.Chat.Feed
import MeadowOps.Flow.DonorFairness
import MeadowOps.Core.RateLimit
import MeadowOps.Core.WsTickets
import MeadowOps.Chat.DownloadNames
import MeadowOps.Query.ResultGrid
import MeadowOps.Chat.Broadcasts
import MeadowOps.Frontend.ChatSocket
import MeadowOps.Frontend.MarkRead
import MeadowOps.Frontend.DeletedThreads
import MeadowOps.Frontend.DraftSync
import MeadowOps.Dashboard.OverviewRuns
import MeadowOps.Dashboard.KpiFigures
import MeadowOps.Dashboard.Paging
import MeadowOps.Chat.AttachmentTypes
import MeadowOps.Chat.Downloads
import MeadowOps.Simulation.Interleaved
import MeadowOps.Core.BodySizeLimit
import MeadowOps.Core.Guesses
import MeadowOps.Core.Sessions
import MeadowOps.Core.SubsystemBoundary
import MeadowOps.Flow.Contested
