import Payments.Application.Handlers

namespace Payments
namespace Infrastructure

open Concurrency Domain Application Prog UnitOfWork

/-!
# The outbox worker and the message consumer

The worker publishes the outbox in cycles, the consumer answers one broker
message.  Both call the handlers and repositories defined before and contain
no business rule of their own.
-/

/-- The settings that the worker and the consumer read, with their defaults. -/
structure Settings where
  RABBITMQ_EXCHANGE : String := "payments.exchange"
  RABBITMQ_EXCHANGE_TYPE : String := "direct"
  RABBITMQ_ROUTING_KEY : String := "payments.new"
  RABBITMQ_QUEUE : String := "payments.new"
  RABBITMQ_RETRY_QUEUE : String := "payments.retry"
  RABBITMQ_DLQ_QUEUE : String := "payments.dlq"
  RABBITMQ_RETRY_TTL_MS : Int := 5000
  RABBITMQ_MAX_RETRIES : Int := 3
  OUTBOX_POLL_INTERVAL : Seconds := .finite 1
  OUTBOX_BATCH_SIZE : Int := 50
  OUTBOX_MAX_ATTEMPTS : Int := 5
  OUTBOX_CLAIM_TIMEOUT : Int := 300
  OUTBOX_PUBLISH_CONCURRENCY : Int := 10
  OUTBOX_RETRY_BASE_DELAY : Rat := 1
  OUTBOX_RETRY_MAX_DELAY : Rat := 60
  OUTBOX_RETRY_JITTER : Rat := 0
  OUTBOX_RETENTION_SECONDS : Int := 604800
  OUTBOX_PURGE_INTERVAL : Int := 300

namespace OutboxWorker

/-- `ExchangeType(text)` refuses any other text. -/
def exchange_types : List String :=
  ["fanout", "direct", "topic", "headers", "x-delayed-message", "x-consistent-hash", "x-modulus-hash"]

/-- `2 ** (attempts - 1)`. -/
def backoff_factor (attempts : Nat) : Rat :=
  if attempts = 0 then 1 / 2 else (2 ^ (attempts - 1) : Nat)

/-- The exponential delay before jitter. -/
def retry_delay (settings : Settings) (attempts : Nat) : Rat :=
  min (settings.OUTBOX_RETRY_BASE_DELAY * backoff_factor attempts) settings.OUTBOX_RETRY_MAX_DELAY

/-- When the message may be claimed again, or nothing once it becomes dead.  The
delay is computed exactly; the `float` of the source is rounded, and it raises
`OverflowError` above 1024 attempts, which ends the cycle before its marks. -/
def next_retry_at (settings : Settings) (attempts : Nat) (now : Datetime) : Program (Option Datetime) :=
  if settings.OUTBOX_MAX_ATTEMPTS ≤ attempts then return none
  else if settings.OUTBOX_RETRY_JITTER = 0 then return some (now + retry_delay settings attempts)
  else do
    let factor : Rat ← await (.uniform 1 (1 + settings.OUTBOX_RETRY_JITTER))
    return some (now + retry_delay settings attempts * factor)

/-- The first transaction: release expired leases and claim a batch. -/
def claim (settings : Settings) (worker_id : UUID) (now : Datetime) : Program (List OutboxMessage) :=
  scope (do
    let _released ← SqlAlchemyOutboxRepository.release_expired_claims now settings.OUTBOX_CLAIM_TIMEOUT
      settings.OUTBOX_MAX_ATTEMPTS
    let messages ← SqlAlchemyOutboxRepository.claim_batch settings.OUTBOX_BATCH_SIZE now worker_id
      settings.OUTBOX_MAX_ATTEMPTS
    await .commit
    return messages)

/-- The messages whose publish failed: `_publish_one` returns them. -/
def failed_messages (results : List (OutboxMessage × Bool)) : List OutboxMessage :=
  (results.filter (fun result => !result.2)).map Prod.fst

/-- The identifiers of the other messages of the batch. -/
def published_ids (messages : List OutboxMessage) (results : List (OutboxMessage × Bool)) : List UUID :=
  let failed_ids := (failed_messages results).map OutboxMessage.id
  (messages.map OutboxMessage.id).filter (fun id => decide (id ∉ failed_ids))

/-- Record the failure of one publish. -/
def mark_failure (settings : Settings) (worker_id : UUID) (now : Datetime) (message : OutboxMessage) :
    Program Unit := do
  let retry_at ← next_retry_at settings message.attempts now
  SqlAlchemyOutboxRepository.mark_publish_failure message.id worker_id settings.OUTBOX_MAX_ATTEMPTS retry_at

/-- The second transaction: record what became of the publishes. -/
def mark (settings : Settings) (worker_id : UUID) (now : Datetime) (published : List UUID)
    (failed : List OutboxMessage) : Program Unit :=
  scope (do
    forEach (fun message_id => SqlAlchemyOutboxRepository.mark_processed message_id worker_id) published
    forEach (mark_failure settings worker_id now) failed
    await .commit)

/-- The publishes of a batch, outside of any transaction, and their marks. -/
def publish (settings : Settings) (worker_id : UUID) (now : Datetime) (messages : List OutboxMessage) :
    Program Unit := do
  if settings.RABBITMQ_EXCHANGE_TYPE ∉ exchange_types then
    .raise (.valueError ("'" ++ settings.RABBITMQ_EXCHANGE_TYPE ++ "' is not a valid ExchangeType"))
  else
    await (.publish_all messages settings.OUTBOX_PUBLISH_CONCURRENCY)
    let results : List (OutboxMessage × Bool) ← await .published_all
    let failed := failed_messages results
    let published := published_ids messages results
    if published.isEmpty && failed.isEmpty then
      return ()
    else
      mark settings worker_id now published failed

def publish_batch (settings : Settings) (worker_id : UUID) : Program Unit := do
  let now : Datetime ← await .now
  let messages ← claim settings worker_id now
  if messages.isEmpty then
    return ()
  else
    publish settings worker_id now messages

def purge_processed (settings : Settings) : Program Unit := do
  let now : Datetime ← await .now
  let cutoff := now - settings.OUTBOX_RETENTION_SECONDS
  scope (do
    SqlAlchemyOutboxRepository.reap_exhausted settings.OUTBOX_MAX_ATTEMPTS
    SqlAlchemyOutboxRepository.purge_processed cutoff
    await .commit)

/-- `except CancelledError: raise`, `except Exception: log`. -/
def logged (program : Program Unit) : Program Unit :=
  program.tryCatch (fun error =>
    match error with
    | .cancelled => .raise .cancelled
    | _ => return ())

/-- The next cycles of the polling loop, after `done` earlier ones. -/
def run (settings : Settings) (worker_id : UUID) (done : Nat) : Nat -> Program Unit
  | 0 => return ()
  | cycles + 1 => do
      logged (publish_batch settings worker_id)
      if settings.OUTBOX_PURGE_INTERVAL = 0 then
        .raise .zeroDivision
      else
        if ((done + 1 : Nat) : Int) % settings.OUTBOX_PURGE_INTERVAL = 0 then
          logged (purge_processed settings)
        run settings worker_id (done + 1) cycles

end OutboxWorker

/-! ## The consumer -/

namespace PaymentConsumerHandler

def PAYMENT_CREATED : String := "PaymentCreated"

def rejected_count (x_death : List DeathEntry) : Nat :=
  ((x_death.filter (fun entry => decide (entry.reason = "rejected"))).map DeathEntry.count).sum

/-- The copy for the dead letter queue has no message identifier. -/
def dlq_copy (message : Message) : Message :=
  { message with message_id := none }

def send_to_dlq (message : Message) : Program Unit :=
  await (.publish_dlq (dlq_copy message))

def process (aggregate_id : AggregateId) (correlation_id : Option String) : Program Unit :=
  match aggregate_id with
  | .missing => .raise (.keyError "aggregate_id")
  | .malformed => .raise (.valueError "badly formed hexadecimal UUID string")
  | .uuid payment_id => do
      let _result ← ProcessPaymentHandler.handle ⟨payment_id, correlation_id⟩

def route (settings : Settings) (message : Message) : Program Unit :=
  match message.body with
  | .undecodable => send_to_dlq message
  | .non_object => send_to_dlq message
  | .object event_type aggregate_id correlation_id =>
      if event_type ≠ some PAYMENT_CREATED then return ()
      else if settings.RABBITMQ_MAX_RETRIES ≤ rejected_count message.x_death then send_to_dlq message
      else process aggregate_id correlation_id

/-- Ack after a normal end, nack after an exception, and neither after a
cancellation. -/
def handle (settings : Settings) (message : Message) : Program Unit := do
  let ended ← (do route settings message; return true : Program Bool).tryCatch (fun error =>
    match error with
    | .cancelled => .raise .cancelled
    | _ => return false)
  if ended then await .ack else await .nack

end PaymentConsumerHandler
end Infrastructure
end Payments
