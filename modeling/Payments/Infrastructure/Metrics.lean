import Payments.Concurrency.Metering
import Payments.Infrastructure.Workers

namespace Payments
namespace Infrastructure

open Concurrency Domain Application Prog UnitOfWork

/-!
# The counters of an outbox worker

The worker counts its dead messages in two counters.  It counts the released
ones when the second statement of the release has returned, and a failed one
when its mark has returned; no other code runs in between.
-/

/-- The counters with the label of dead messages. -/
structure Metrics where
  /-- `outbox_messages_total{status="dead"}`. -/
  outbox_messages_total : Nat
  /-- `outbox_claims_released_total{dest="dead"}`. -/
  outbox_claims_released_total : Nat
  deriving DecidableEq, Repr

def Metrics.zero : Metrics := ⟨0, 0⟩

/-- Both counters together. -/
def Metrics.dead (metrics : Metrics) : Nat :=
  metrics.outbox_messages_total + metrics.outbox_claims_released_total

abbrev MeteredProgram := Prog (signature.metered Metrics)

/-- Call an operation and count its answer. -/
abbrev counted (op : Op) (count : op.Answer -> Metrics -> Metrics) : MeteredProgram op.Answer :=
  @perform (signature.metered Metrics) ⟨op, count⟩

abbrev uncounted {X : Type} (program : Program X) : MeteredProgram X :=
  program.metered Metrics

namespace MeteredOutboxWorker

/-- The `async with` block of a unit of work. -/
def scope {X : Type} (body : MeteredProgram X) : MeteredProgram X :=
  (body.tryCatch (fun error => do
    uncounted (await .rollback)
    .raise error)).tryFinally (uncounted (await .close))

def release_expired_claims (now : Datetime) (timeout max_attempts : Int) : MeteredProgram (Nat × Nat) := do
  let cutoff := now - timeout
  let dead : List OutboxMessageModel ←
    uncounted (await (.update .outbox_messages (.release_to_dead cutoff max_attempts)))
  let pending : List OutboxMessageModel ←
    counted (.update .outbox_messages (.release_to_pending cutoff max_attempts)) (fun _ metrics =>
      { metrics with outbox_claims_released_total := metrics.outbox_claims_released_total + dead.length })
  return (dead.length, pending.length)

def claim (settings : Settings) (worker_id : UUID) (now : Datetime) : MeteredProgram (List OutboxMessage) :=
  scope (do
    let _released ← release_expired_claims now settings.OUTBOX_CLAIM_TIMEOUT settings.OUTBOX_MAX_ATTEMPTS
    let messages ← uncounted (SqlAlchemyOutboxRepository.claim_batch settings.OUTBOX_BATCH_SIZE now worker_id
      settings.OUTBOX_MAX_ATTEMPTS)
    uncounted (await .commit)
    return messages)

/-- A message without a retry time counts as dead, whatever its mark has found. -/
def mark_failure (settings : Settings) (worker_id : UUID) (now : Datetime) (message : OutboxMessage) :
    MeteredProgram Unit := do
  let retry_at ← uncounted (OutboxWorker.next_retry_at settings message.attempts now)
  let _rows : List OutboxMessageModel ←
    counted (.update .outbox_messages
      (.mark_publish_failure message.id worker_id settings.OUTBOX_MAX_ATTEMPTS retry_at)) (fun _ metrics =>
      if retry_at = none then { metrics with outbox_messages_total := metrics.outbox_messages_total + 1 }
      else metrics)

def mark (settings : Settings) (worker_id : UUID) (now : Datetime) (published : List UUID)
    (failed : List OutboxMessage) : MeteredProgram Unit :=
  scope (do
    uncounted (forEach (fun message_id => SqlAlchemyOutboxRepository.mark_processed message_id worker_id) published)
    forEach (mark_failure settings worker_id now) failed
    uncounted (await .commit))

def publish (settings : Settings) (worker_id : UUID) (now : Datetime) (messages : List OutboxMessage) :
    MeteredProgram Unit := do
  if settings.RABBITMQ_EXCHANGE_TYPE ∉ OutboxWorker.exchange_types then
    .raise (.valueError ("'" ++ settings.RABBITMQ_EXCHANGE_TYPE ++ "' is not a valid ExchangeType"))
  else
    uncounted (await (.publish_all messages settings.OUTBOX_PUBLISH_CONCURRENCY))
    let results : List (OutboxMessage × Bool) ← uncounted (await .published_all)
    let failed := OutboxWorker.failed_messages results
    let published := OutboxWorker.published_ids messages results
    if published.isEmpty && failed.isEmpty then
      return ()
    else
      mark settings worker_id now published failed

def publish_batch (settings : Settings) (worker_id : UUID) : MeteredProgram Unit := do
  let now : Datetime ← uncounted (await .now)
  let messages ← claim settings worker_id now
  if messages.isEmpty then
    return ()
  else
    publish settings worker_id now messages

def logged (program : MeteredProgram Unit) : MeteredProgram Unit :=
  program.tryCatch (fun error =>
    match error with
    | .cancelled => .raise .cancelled
    | _ => return ())

def run (settings : Settings) (worker_id : UUID) (done : Nat) : Nat -> MeteredProgram Unit
  | 0 => return ()
  | cycles + 1 => do
      logged (publish_batch settings worker_id)
      if settings.OUTBOX_PURGE_INTERVAL = 0 then
        .raise .zeroDivision
      else
        if ((done + 1 : Nat) : Int) % settings.OUTBOX_PURGE_INTERVAL = 0 then
          uncounted (OutboxWorker.logged (OutboxWorker.purge_processed settings))
        run settings worker_id (done + 1) cycles

/-! ## Without the counters it is the worker -/

theorem unmetered_counted {X : Type} (op : Op) (count : op.Answer -> Metrics -> Metrics)
    (rest : op.Answer -> MeteredProgram X) :
    (counted op count >>= rest).unmetered = await op >>= fun answer => (rest answer).unmetered := by
  have performed : (counted op count).unmetered = await op := @unmetered_perform signature Metrics ⟨op, count⟩
  rw [unmetered_bind, performed]

theorem unmetered_pure {X : Type} (value : X) : (pure value : MeteredProgram X).unmetered = pure value := rfl

theorem unmetered_scope {X : Type} (body : MeteredProgram X) :
    (scope body).unmetered = UnitOfWork.scope body.unmetered := by
  rw [scope, unmetered_tryFinally, unmetered_tryCatch]
  simp only [unmetered_bind, unmetered_metered, unmetered_raise]
  rfl

theorem unmetered_release (now : Datetime) (timeout max_attempts : Int) :
    (release_expired_claims now timeout max_attempts).unmetered =
      SqlAlchemyOutboxRepository.release_expired_claims now timeout max_attempts := by
  rw [release_expired_claims, unmetered_bind, unmetered_metered, SqlAlchemyOutboxRepository.release_expired_claims]
  refine congrArg (Bind.bind (await _)) (funext fun dead => ?_)
  exact unmetered_counted (.update .outbox_messages _) _ _

theorem unmetered_claim (settings : Settings) (worker_id : UUID) (now : Datetime) :
    (claim settings worker_id now).unmetered = OutboxWorker.claim settings worker_id now := by
  rw [claim, unmetered_scope]
  simp only [unmetered_release, unmetered_bind, unmetered_metered, unmetered_pure]
  rfl

theorem unmetered_mark_failure (settings : Settings) (worker_id : UUID) (now : Datetime) (message : OutboxMessage) :
    (mark_failure settings worker_id now message).unmetered =
      OutboxWorker.mark_failure settings worker_id now message := by
  rw [mark_failure, unmetered_bind, unmetered_metered, OutboxWorker.mark_failure]
  refine congrArg (Bind.bind (OutboxWorker.next_retry_at settings message.attempts now)) (funext fun retry_at => ?_)
  exact unmetered_counted (.update .outbox_messages _) _ _

theorem unmetered_mark (settings : Settings) (worker_id : UUID) (now : Datetime) (published : List UUID)
    (failed : List OutboxMessage) :
    (mark settings worker_id now published failed).unmetered =
      OutboxWorker.mark settings worker_id now published failed := by
  rw [mark, unmetered_scope]
  simp only [unmetered_bind, unmetered_metered, unmetered_forEach, unmetered_mark_failure]
  rfl

theorem unmetered_publish (settings : Settings) (worker_id : UUID) (now : Datetime) (messages : List OutboxMessage) :
    (publish settings worker_id now messages).unmetered = OutboxWorker.publish settings worker_id now messages := by
  rw [publish, OutboxWorker.publish]
  split
  · rfl
  · rw [unmetered_bind, unmetered_metered]
    congr 1
    funext _
    rw [unmetered_bind, unmetered_metered]
    congr 1
    funext results
    dsimp only
    split
    · rfl
    · exact unmetered_mark settings worker_id now _ _

theorem unmetered_publish_batch (settings : Settings) (worker_id : UUID) :
    (publish_batch settings worker_id).unmetered = OutboxWorker.publish_batch settings worker_id := by
  rw [publish_batch, OutboxWorker.publish_batch, unmetered_bind, unmetered_metered]
  congr 1
  funext now
  rw [unmetered_bind, unmetered_claim]
  congr 1
  funext messages
  split
  · rfl
  · exact unmetered_publish settings worker_id now messages

theorem unmetered_logged (program : MeteredProgram Unit) :
    (logged program).unmetered = OutboxWorker.logged program.unmetered := by
  rw [logged, unmetered_tryCatch, OutboxWorker.logged]
  congr 1
  funext error
  cases error <;> rfl

/-- Without the counters it is the worker of the service. -/
theorem unmetered_run (settings : Settings) (worker_id : UUID) (done cycles : Nat) :
    (run settings worker_id done cycles).unmetered = OutboxWorker.run settings worker_id done cycles := by
  induction cycles generalizing done with
  | zero => rfl
  | succ cycles inductionHypothesis =>
      rw [run, OutboxWorker.run, unmetered_bind, unmetered_logged, unmetered_publish_batch]
      congr 1
      funext _
      split
      · rfl
      · dsimp only
        split
        · rw [unmetered_bind, unmetered_metered, inductionHypothesis]
        · exact inductionHypothesis (done + 1)

end MeteredOutboxWorker
end Infrastructure
end Payments
