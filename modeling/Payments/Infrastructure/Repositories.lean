import Payments.Infrastructure.World

namespace Payments
namespace Infrastructure

open Concurrency Domain Prog

/-!
# Repositories and the unit of work

Each repository method is a program over the operations of the world.  A
repository acts in the session of the unit of work that is open, and a run has
at most one open unit of work.
-/

namespace SqlAlchemyPaymentRepository

def try_insert (payment : Payment) : Program (Option Payment) := do
  let rowcount : Nat ← await (.insert_on_conflict_do_nothing (PaymentModel.of_payment payment))
  return if rowcount = 1 then some payment else none

def get (payment_id : UUID) : Program (Option Payment) := do
  let rows : List PaymentModel ← await (.select .payments (.payment_by_id payment_id))
  match rows.head? with
  | some row =>
      let payment ← ofExcept row.to_domain
      return some payment
  | none => return none

def get_by_idempotency_key (idempotency_key : String) : Program (Option Payment) := do
  let rows : List PaymentModel ←
    await (.select .payments (.payment_by_idempotency_key idempotency_key))
  match rows with
  | [] => return none
  | [row] =>
      let payment ← ofExcept row.to_domain
      return some payment
  | _ => .raise .multipleResultsFound

def begin_processing (payment_id : UUID) (expected_version : Nat) (expected_status : PaymentStatus) :
    Program Bool := do
  let rows : List PaymentModel ←
    await (.update .payments
      (.payment_transition payment_id expected_version expected_status .PROCESSING none))
  return rows.length == 1

def mark_succeeded (payment_id : UUID) (expected_version : Nat) (expected_status : PaymentStatus)
    (processed_at : Datetime) : Program Bool := do
  let rows : List PaymentModel ←
    await (.update .payments
      (.payment_transition payment_id expected_version expected_status .SUCCEEDED (some processed_at)))
  return rows.length == 1

def mark_failed (payment_id : UUID) (expected_version : Nat) (expected_status : PaymentStatus)
    (processed_at : Datetime) : Program Bool := do
  let rows : List PaymentModel ←
    await (.update .payments
      (.payment_transition payment_id expected_version expected_status .FAILED (some processed_at)))
  return rows.length == 1

end SqlAlchemyPaymentRepository

namespace SqlAlchemyAttemptRepository

def add (attempt : PaymentAttempt) : Program Unit :=
  await (.add .payment_attempts (PaymentAttemptModel.of_attempt attempt))

def update (attempt : PaymentAttempt) : Program Unit := do
  let _rows : List PaymentAttemptModel ← await (.update .payment_attempts (.attempt_progress attempt))

def get_by_payment_id (payment_id : UUID) : Program (List PaymentAttempt) := do
  let rows : List PaymentAttemptModel ←
    await (.select .payment_attempts (.attempts_by_payment_id payment_id))
  return rows.map PaymentAttemptModel.to_domain

end SqlAlchemyAttemptRepository

namespace SqlAlchemyWebhookDeliveryRepository

def add (delivery : WebhookDelivery) : Program Unit :=
  await (.add .webhook_deliveries (WebhookDeliveryModel.to_model delivery))

def get (delivery_id : UUID) : Program (Option WebhookDelivery) := do
  let rows : List WebhookDeliveryModel ←
    await (.select .webhook_deliveries (.delivery_by_id delivery_id))
  return rows.head?.map WebhookDeliveryModel.to_domain

def claim_due (limit : Int) (now : Datetime) : Program (List WebhookDelivery) := do
  let rows : List WebhookDeliveryModel ←
    await (.select_for_update .webhook_deliveries (.due_deliveries now) limit)
  return rows.map WebhookDeliveryModel.to_domain

def update (delivery : WebhookDelivery) : Program Unit := do
  let _rows : List WebhookDeliveryModel ←
    await (.update .webhook_deliveries (.delivery_progress delivery))

end SqlAlchemyWebhookDeliveryRepository

namespace SqlAlchemyOutboxRepository

/-- Returns `(released_dead, released_pending)`. -/
def release_expired_claims (now : Datetime) (timeout max_attempts : Int) : Program (Nat × Nat) := do
  let cutoff := now - timeout
  let dead : List OutboxMessageModel ←
    await (.update .outbox_messages (.release_to_dead cutoff max_attempts))
  let pending : List OutboxMessageModel ←
    await (.update .outbox_messages (.release_to_pending cutoff max_attempts))
  return (dead.length, pending.length)

def claim_batch (limit : Int) (now : Datetime) (worker_id : UUID) (max_attempts : Int) :
    Program (List OutboxMessage) := do
  let rows : List OutboxMessageModel ←
    await (.update_claimable .outbox_messages (.claimable_messages now max_attempts) limit
      (.claim now worker_id))
  return rows.map OutboxMessageModel.to_domain

def mark_processed (message_id worker_id : UUID) : Program Unit := do
  let _rows : List OutboxMessageModel ←
    await (.update .outbox_messages (.mark_processed message_id worker_id))

def mark_publish_failure (message_id worker_id : UUID) (max_attempts : Int)
    (next_retry_at : Option Datetime) : Program Unit := do
  let _rows : List OutboxMessageModel ←
    await (.update .outbox_messages
      (.mark_publish_failure message_id worker_id max_attempts next_retry_at))

def reap_exhausted (max_attempts : Int) : Program Unit := do
  let _rows : List OutboxMessageModel ← await (.update .outbox_messages (.reap_exhausted max_attempts))

def purge_processed (cutoff : Datetime) : Program Unit :=
  await (.delete_finished cutoff)

end SqlAlchemyOutboxRepository

/-! ## The unit of work -/

namespace UnitOfWork

/-- Put domain events into the outbox in the current transaction. -/
def collect_events (events : List DomainEvent) : Program Unit :=
  forEach (fun event => do
    let id : UUID ← await .uuid7
    await (.add .outbox_messages (OutboxMessageModel.of_event id event))) events

/-- `async with uow_factory() as uow: body`.  An exception rolls the
transaction back, and the session is closed in every case. -/
def scope {X : Type} (body : Program X) : Program X :=
  (body.tryCatch (fun error => do
    await .rollback
    .raise error)).tryFinally (await .close)

/-- `@transactional(commit=commit)`. -/
def transactional {X : Type} (commit : Bool) (body : Program X) : Program X :=
  scope (do
    let result ← body
    if commit then
      await .commit
    return result)

end UnitOfWork
end Infrastructure
end Payments
