import Payments.Concurrency.Machine
import Payments.Concurrency.Translation
import Payments.Infrastructure.Workers

namespace Payments
namespace Infrastructure

open Concurrency Domain Application Prog

/-!
# The broker's queues and the life of one message

The topology gives the main and the retry queue their dead-letter arguments.
The consumer is stated once more over the five calls it makes itself: decoding,
the process handler, the publish to the dead letter queue, and the two answers.
Putting the service's programs in the place of these calls gives the consumer
of the service, so what is shown of the calls is shown of the service.
-/

/-! ## Topology -/

structure RabbitQueue where
  name : String
  x_dead_letter_exchange : Option String
  x_dead_letter_routing_key : Option String
  x_message_ttl : Option Int

structure Topology where
  exchange : String
  exchange_type : String
  main_queue : RabbitQueue
  retry_queue : RabbitQueue
  dlq_queue : RabbitQueue

def build_topology (settings : Settings) : Topology where
  exchange := settings.RABBITMQ_EXCHANGE
  exchange_type := settings.RABBITMQ_EXCHANGE_TYPE
  main_queue :=
    { name := settings.RABBITMQ_QUEUE
      x_dead_letter_exchange := some settings.RABBITMQ_EXCHANGE
      x_dead_letter_routing_key := some settings.RABBITMQ_RETRY_QUEUE
      x_message_ttl := none }
  retry_queue :=
    { name := settings.RABBITMQ_RETRY_QUEUE
      x_dead_letter_exchange := some settings.RABBITMQ_EXCHANGE
      x_dead_letter_routing_key := some settings.RABBITMQ_ROUTING_KEY
      x_message_ttl := some settings.RABBITMQ_RETRY_TTL_MS }
  dlq_queue :=
    { name := settings.RABBITMQ_DLQ_QUEUE
      x_dead_letter_exchange := none
      x_dead_letter_routing_key := none
      x_message_ttl := none }

def Topology.queue (topology : Topology) : QueueName -> RabbitQueue
  | .main => topology.main_queue
  | .retry => topology.retry_queue

/-- The queues that are bound to the exchange, with their keys. -/
def bindings (settings : Settings) : List (QueueName × String) :=
  [(.main, settings.RABBITMQ_ROUTING_KEY), (.retry, settings.RABBITMQ_RETRY_QUEUE)]

/-- The queues that a direct exchange hands a dead message of a queue to. -/
def dead_letter_route (settings : Settings) (queue : QueueName) : List QueueName :=
  let dead := (build_topology settings).queue queue
  if dead.x_dead_letter_exchange = some (build_topology settings).exchange then
    ((bindings settings).filter (fun binding =>
      decide (dead.x_dead_letter_routing_key = some binding.2))).map Prod.fst
  else []

theorem main_dead_letter_route {settings : Settings}
    (distinct : settings.RABBITMQ_RETRY_QUEUE ≠ settings.RABBITMQ_ROUTING_KEY) :
    dead_letter_route settings .main = [.retry] := by
  simp [dead_letter_route, build_topology, Topology.queue, bindings, distinct]

theorem retry_dead_letter_route {settings : Settings}
    (distinct : settings.RABBITMQ_RETRY_QUEUE ≠ settings.RABBITMQ_ROUTING_KEY) :
    dead_letter_route settings .retry = [.main] := by
  simp [dead_letter_route, build_topology, Topology.queue, bindings, distinct.symm]

/-! ## The calls of the consumer -/

/-- What `msg.decode()` returns. -/
inductive Decoded where
  | non_object
  | object (event_type : Option String) (aggregate_id : AggregateId) (correlation_id : Option String)

inductive ConsumerCall where
  | decode
  | process (command : ProcessPaymentCommand)
  | publish_dlq (message : Message)
  | ack
  | nack

@[reducible] def ConsumerCall.Answer : ConsumerCall -> Type
  | .decode => Decoded
  | .process _ => PaymentProcessingResult
  | _ => Unit

abbrev consumer : Signature := ⟨ConsumerCall, ConsumerCall.Answer, Error⟩

abbrev calling (call : ConsumerCall) : Prog consumer call.Answer := @Prog.perform consumer call

namespace ConsumerCall

/-- `except (ValueError, TypeError, json.JSONDecodeError)`. -/
def decode_error : Error -> Bool
  | .valueError _ => true
  | .typeError _ => true
  | _ => false

def send_to_dlq (message : Message) : Prog consumer Unit :=
  calling (.publish_dlq (PaymentConsumerHandler.dlq_copy message))

def process_body (aggregate_id : AggregateId) (correlation_id : Option String) : Prog consumer Unit :=
  match aggregate_id with
  | .missing => .raise (.keyError "aggregate_id")
  | .malformed => .raise (.valueError "badly formed hexadecimal UUID string")
  | .uuid payment_id => do
      let _result : PaymentProcessingResult ← calling (.process ⟨payment_id, correlation_id⟩)

/-- The decoded body, or nothing after an exception that the consumer expects. -/
def decoded_body : Prog consumer (Option Decoded) :=
  (do let body : Decoded ← calling .decode; return some body : Prog consumer (Option Decoded)).tryCatch
    (fun error => if decode_error error then return none else .raise error)

def route_body (settings : Settings) (message : Message) : Option Decoded -> Prog consumer Unit
  | none => send_to_dlq message
  | some .non_object => send_to_dlq message
  | some (.object event_type aggregate_id correlation_id) =>
      if event_type ≠ some PaymentConsumerHandler.PAYMENT_CREATED then return ()
      else if settings.RABBITMQ_MAX_RETRIES ≤ PaymentConsumerHandler.rejected_count message.x_death then
        send_to_dlq message
      else process_body aggregate_id correlation_id

def route (settings : Settings) (message : Message) : Prog consumer Unit := do
  let body ← decoded_body
  route_body settings message body

def handle (settings : Settings) (message : Message) : Prog consumer Unit := do
  let ended ← (do route settings message; return true : Prog consumer Bool).tryCatch (fun error =>
    match error with
    | .cancelled => .raise .cancelled
    | _ => return false)
  if ended then calling .ack else calling .nack

/-! ## The consumer of the service -/

/-- What the calls are in the service. -/
def in_service (message : Message) : (call : ConsumerCall) -> Program call.Answer
  | .decode =>
      match message.body with
      | .undecodable => .raise (.valueError "invalid body")
      | .non_object => return .non_object
      | .object event_type aggregate_id correlation_id => return .object event_type aggregate_id correlation_id
  | .process command => ProcessPaymentHandler.handle command
  | .publish_dlq copy => await (.publish_dlq copy)
  | .ack => await .ack
  | .nack => await .nack

theorem process_body_in_service (message : Message) (aggregate_id : AggregateId) (correlation_id : Option String) :
    (process_body aggregate_id correlation_id).translate (in_service message) =
      PaymentConsumerHandler.process aggregate_id correlation_id := by
  cases aggregate_id with
  | missing => rfl
  | malformed => rfl
  | uuid payment_id => exact (translate_bind _ _).trans (by rw [translate_perform]; rfl)

/-- The body of a message, as the consumer finds it. -/
def expected_body (message : Message) : Option Decoded :=
  match message.body with
  | .undecodable => none
  | .non_object => some .non_object
  | .object event_type aggregate_id correlation_id => some (.object event_type aggregate_id correlation_id)

theorem decoded_body_in_service (message : Message) :
    decoded_body.translate (in_service message) = pure (expected_body message) := by
  rw [decoded_body, translate_tryCatch, translate_bind, translate_perform]
  cases body : message.body with
  | undecodable =>
      simp only [in_service, expected_body, body]
      rfl
  | non_object =>
      simp only [in_service, expected_body, body]
      rfl
  | object event_type aggregate_id correlation_id =>
      simp only [in_service, expected_body, body]
      rfl

theorem send_to_dlq_in_service (message : Message) :
    (send_to_dlq message).translate (in_service message) = PaymentConsumerHandler.send_to_dlq message :=
  translate_perform _

theorem route_in_service (settings : Settings) (message : Message) :
    (route settings message).translate (in_service message) = PaymentConsumerHandler.route settings message := by
  have routed : (route settings message).translate (in_service message) =
      (route_body settings message (expected_body message)).translate (in_service message) := by
    rw [route, translate_bind, decoded_body_in_service]
    rfl
  rw [routed, PaymentConsumerHandler.route]
  cases body : message.body with
  | undecodable =>
      simp only [expected_body, body]
      exact send_to_dlq_in_service message
  | non_object =>
      simp only [expected_body, body]
      exact send_to_dlq_in_service message
  | object event_type aggregate_id correlation_id =>
      simp only [expected_body, body, route_body]
      split
      · rfl
      · split
        · exact send_to_dlq_in_service message
        · exact process_body_in_service message aggregate_id correlation_id

/-- The consumer of the service makes these calls. -/
theorem handle_in_service (settings : Settings) (message : Message) :
    (handle settings message).translate (in_service message) = PaymentConsumerHandler.handle settings message := by
  rw [handle, translate_bind, translate_tryCatch, translate_bind, route_in_service, PaymentConsumerHandler.handle]
  congr 1
  · congr 1
    funext error
    cases error <;> rfl
  · funext ended
    cases ended
    · exact translate_perform _
    · exact translate_perform _

end ConsumerCall

/-! ## The life of one message -/

/-- How the calls of a delivery end.  A cancelled call belongs to a consumer
that is being stopped. -/
structure Results where
  decoded : Except Error Decoded
  processed : Except Error PaymentProcessingResult
  published : Except Error Unit
  /-- Whether a publish that raises has arrived all the same. -/
  takes_effect : Bool
  decode_not_cancelled : decoded ≠ .error .cancelled
  process_not_cancelled : processed ≠ .error .cancelled
  publish_not_cancelled : published ≠ .error .cancelled

inductive Reply where
  | ack
  | nack
  deriving DecidableEq, Repr

/-- Where the message is, and what has happened to it. -/
structure Life where
  main : List Message
  retry : List Message
  /-- In delivery to a consumer that has not answered yet. -/
  unacked : RunId -> Option Message
  acked : List Message
  dlq : List Message
  deliveries : Nat
  /-- The calls of the process handler. -/
  invocations : Nat
  /-- The answers of each delivery. -/
  answers : RunId -> List Reply
  /-- The last body and the last result of the process handler. -/
  decoded : Option (Except Error Decoded)
  processed : Option (Except Error PaymentProcessingResult)
  /-- So far every body was that of a created payment, every processing has
  raised, and every publish to the dead letter queue has succeeded. -/
  exhausting : Bool
  /-- A consumer has crashed. -/
  crashed : Bool

namespace Life

/-- The message waits in the main queue for its first delivery. -/
def published (message : Message) : Life where
  main := [message]
  retry := []
  unacked := fun _ => none
  acked := []
  dlq := []
  deliveries := 0
  invocations := 0
  answers := fun _ => []
  decoded := none
  processed := none
  exhausting := true
  crashed := false

def push (message : Message) (life : Life) : QueueName -> Life
  | .main => { life with main := message :: life.main }
  | .retry => { life with retry := message :: life.retry }

/-- A dead message of a queue goes where the topology sends it. -/
def dead_letter (settings : Settings) (queue : QueueName) (reason : String) (message : Message) (life : Life) : Life :=
  (dead_letter_route settings queue).foldl (push (message.dead_letter queue reason)) life

def answer (run : RunId) (reply : Reply) (life : Life) : Life :=
  { life with
    unacked := Function.update life.unacked run none
    answers := Function.update life.answers run (reply :: life.answers run) }

def is_created : Except Error Decoded -> Bool
  | .ok (.object event_type _ _) => decide (event_type = some PaymentConsumerHandler.PAYMENT_CREATED)
  | _ => false

def returned {X : Type} : Except Error X -> Bool
  | .ok _ => true
  | .error _ => false

def exec (settings : Settings) (run : RunId) :
    (call : ConsumerCall) -> Results -> Life -> Option (Life × Except Error call.Answer)
  | .decode, results, life =>
      some ({ life with
        decoded := some results.decoded
        exhausting := life.exhausting && is_created results.decoded }, results.decoded)
  | .process _, results, life =>
      some ({ life with
        invocations := life.invocations + 1
        processed := some results.processed
        exhausting := life.exhausting && !returned results.processed }, results.processed)
  | .publish_dlq message, results, life =>
      some ({ life with
        dlq := if returned results.published || results.takes_effect then message :: life.dlq else life.dlq
        exhausting := life.exhausting && returned results.published }, results.published)
  | .ack, _, life =>
      match life.unacked run with
      | none => some (life, .error .infrastructure)
      | some message => some ({ life.answer run .ack with acked := message :: life.acked }, .ok ())
  | .nack, _, life =>
      match life.unacked run with
      | none => some (life, .error .infrastructure)
      | some message => some ((life.answer run .nack).dead_letter settings .main "rejected" message, .ok ())

/-- The broker delivers a message of the main queue. -/
def deliver (message : Message) (run : RunId) (life : Life) : Option Life :=
  if message ∈ life.main then
    some { life with
      main := life.main.erase message
      unacked := Function.update life.unacked run (some message)
      deliveries := life.deliveries + 1
      decoded := none
      processed := none }
  else none

/-- The time to live of a message of the retry queue ends. -/
def expire (settings : Settings) (index : Nat) (life : Life) : Option Life :=
  (life.retry[index]?).map (fun message =>
    dead_letter settings .retry "expired" message { life with retry := life.retry.eraseIdx index })

end Life

/-- Deliveries of one message, each of them run by the consumer. -/
@[reducible] def life_cycle (settings : Settings) : Machine consumer where
  Shared := Life
  Run := RunId
  Choice := Results
  Job := Message
  Result := fun _ => Unit
  Env := Nat
  program := fun _ message => ConsumerCall.handle settings message
  exec := Life.exec settings
  start := Life.deliver
  crash := fun _ life => { life with crashed := true }
  env := Life.expire settings

instance (settings : Settings) : DecidableEq (life_cycle settings).Run :=
  inferInstanceAs (DecidableEq Nat)

end Infrastructure
end Payments
