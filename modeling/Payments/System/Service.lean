import Payments.Infrastructure.Workers

namespace Payments
namespace System

open Concurrency Domain Infrastructure Application

/-!
# The whole service

Any number of requests, consumers, outbox workers and webhook workers run over
one world.  Settings may differ from worker to worker within what a deployment
allows; a worker is a run of its own, so a restarted worker has a new
identifier.
-/

structure Deployment where
  /-- The settings that outbox workers may be started with. -/
  outbox_settings : Settings -> Bool
  retry_policy : RetryPolicy

inductive Job where
  | create (command : CreatePaymentCommand)
  | process (command : ProcessPaymentCommand)
  | get (query : GetPaymentQuery)
  /-- One `process_once` of the webhook worker. -/
  | deliver (batch_size concurrency : Int)
  | outbox (settings : Settings) (cycles : Nat)
  /-- One delivery of a message to a consumer. -/
  | consume (settings : Settings) (message : Message)

@[reducible] def Job.Result : Job -> Type
  | .create _ => PaymentDTO
  | .process _ => PaymentProcessingResult
  | .get _ => PaymentDTO
  | .deliver _ _ => WebhookBatchResult
  | .outbox _ _ => Unit
  | .consume _ _ => Unit

def program (deployment : Deployment) (run : RunId) : (job : Job) -> Program job.Result
  | .create command => CreatePaymentHandler.handle command
  | .process command => ProcessPaymentHandler.handle command
  | .get query => GetPaymentHandler.handle query
  | .deliver batch_size concurrency =>
      DeliverDueWebhooksHandler.handle batch_size deployment.retry_policy concurrency
  | .outbox settings cycles => OutboxWorker.run settings run 0 cycles
  | .consume settings message => PaymentConsumerHandler.handle settings message

/-- The broker hands a message of the main queue to a consumer. -/
def deliver (run : RunId) (message : Message) (world : World) : World :=
  World.note (.run run) (.delivered message)
    (world.set_broker { world.broker with
      main := world.broker.main.erase message
      unacked := Function.update world.broker.unacked run (some message) })

def start (deployment : Deployment) (job : Job) (run : RunId) (world : World) : Option World :=
  match job with
  | .outbox settings _ => if deployment.outbox_settings settings then some world else none
  | .consume _ message => if message ∈ world.broker.main then some (deliver run message world) else none
  | _ => some world

@[reducible] def service (deployment : Deployment) : Machine signature where
  Shared := World
  Run := RunId
  Choice := Choice
  Job := Job
  Result := Job.Result
  Env := Occurrence
  program := program deployment
  exec := World.exec
  start := start deployment
  crash := World.crash
  env := World.happen

instance (deployment : Deployment) : DecidableEq (service deployment).Run :=
  inferInstanceAs (DecidableEq Nat)

end System
end Payments
