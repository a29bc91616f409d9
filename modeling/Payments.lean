import Payments.Concurrency.Program
import Payments.Concurrency.Machine
import Payments.Concurrency.Schedules
import Payments.Concurrency.RelyGuarantee
import Payments.Concurrency.Asking
import Payments.Concurrency.Evaluations
import Payments.Concurrency.Translation
import Payments.Concurrency.Oracles
import Payments.Concurrency.Metering
import Payments.Concurrency.Histories
import Payments.Concurrency.RowLocks
import Payments.Concurrency.SkipLocked
import Payments.Domain.ValueObjects
import Payments.Domain.Amounts
import Payments.Domain.Payment
import Payments.Domain.Objects
import Payments.Domain.WebhookDelivery
import Payments.Infrastructure.Models
import Payments.Infrastructure.Statements
import Payments.Infrastructure.Migrations
import Payments.Infrastructure.Webhook
import Payments.Infrastructure.Uow
import Payments.Infrastructure.World
import Payments.Infrastructure.Steps
import Payments.Infrastructure.Changes
import Payments.Infrastructure.Frames
import Payments.Infrastructure.Repositories
import Payments.Infrastructure.Sessions
import Payments.Application.Handlers
import Payments.Presentation.Requests
import Payments.Infrastructure.Workers
import Payments.Infrastructure.Polling
import Payments.Infrastructure.Metrics
import Payments.Infrastructure.Broker
import Payments.Infrastructure.Routing
import Payments.Infrastructure.Serialization
import Payments.System.Service
import Payments.System.MeteredService
import Payments.System.Footprints
import Payments.System.Transactions
import Payments.Properties.OutboxRows
import Payments.Properties.ClaimRecords
import Payments.Properties.OutboxLeases
import Payments.Properties.OutboxDiscipline
import Payments.Properties.OutboxCycles
import Payments.Properties.OutboxFencing
import Payments.Properties.LeaseTiming
import Payments.Properties.PaymentRows
import Payments.Properties.PaymentTables
import Payments.Properties.PaymentAggregates
import Payments.Properties.PaymentCommits
import Payments.Properties.PaymentDiscipline
import Payments.Properties.PaymentProcessing
import Payments.Properties.PaymentRuns
import Payments.Properties.PaymentConsumers
import Payments.Properties.PaymentFinality
import Payments.Properties.PaymentCharges
import Payments.Properties.PaymentTransitions
import Payments.Properties.PaymentReads
import Payments.Properties.EventCodec
import Payments.Properties.Persistence
import Payments.Properties.MessageLifeCycle
import Payments.Properties.DeliveryRows
import Payments.Properties.DeliveryDiscipline
import Payments.Runtime.RateLimiter
import Payments.Properties.RateLimits
import Payments.Properties.AcceptedValues
import Payments.Properties.RequestLimits
import Payments.Properties.UnitOfWorkBlocks
import Payments.Properties.LegacyRows
import Payments.Properties.QueueTopology
import Payments.Properties.SplitClaims
import Payments.Properties.PaymentObjects
import Payments.Properties.PaymentMirrors
import Payments.Properties.RetryTimes
import Payments.Properties.RetryBackoff
import Payments.Properties.DeadTallies
import Payments.Properties.DeadMetrics
import Payments.Properties.DeliveryBatches
import Payments.Properties.WebhookRetries
import Payments.Properties.PollingLoop
import Payments.Properties.RetryDelays
import Payments.Properties.WebhookExclusion
import Payments.Properties.CreationDiscipline
import Payments.Properties.PaymentCreations
import Payments.Properties.MessageCopies
import Payments.Properties.MessageOrigins
import Payments.Properties.PaymentHandover
import Payments.Properties.AmountTexts
import Payments.Properties.PaymentOrigins
import Payments.Properties.ProcessingArguments
import Payments.Properties.PaymentEnds
import Payments.Properties.PaymentCorrelations
import Payments.Properties.WebhookPayments
import Payments.Properties.WebhookPayloads
import Payments.Properties.WebhookContents
import Payments.Concurrency.Refinement
import Payments.Concurrency.Ledgers
import Payments.Properties.PaymentLedger
import Payments.Properties.RepeatedReads
import Payments.Concurrency.Progress
import Payments.Properties.LockLifetimes
import Payments.Properties.HandlerProgress
import Payments.Domain.Uuid
import Payments.Properties.TimeOrderedIds
import Payments.Presentation.Responses
import Payments.Concurrency.Raising
import Payments.Properties.ApiResponses
import Payments.Properties.ApiAnswers
import Payments.Properties.AttemptArguments
import Payments.Properties.AttemptAnswers
import Payments.Concurrency.Alone
import Payments.Properties.LoneProcessing
import Payments.Properties.PaymentCompletion
import Payments.Schemas.Walks
import Payments.Schemas.Definitions
import Payments.Schemas.Reversals
import Payments.Infrastructure.Revisions
import Payments.Properties.RevisionWalks
