import Payments.Infrastructure.Broker

namespace Payments
namespace Infrastructure

/-!
# What the broker has been told

`register_consumer` and `declare_topology` declare exchanges, queues and
bindings by name.  A direct exchange hands a message to the queues bound under
its routing key, and the default exchange to the queue of that name.
-/

structure Binding where
  exchange : String
  queue : String
  routing_key : String
  deriving DecidableEq

/-- The exchanges with their types, the queues and the bindings of a broker. -/
structure Declared where
  exchanges : List (String × String)
  queues : List RabbitQueue
  bindings : List Binding

namespace Declared

def declare_exchange (name exchange_type : String) (declared : Declared) : Declared :=
  if (name, exchange_type) ∈ declared.exchanges then declared
  else { declared with exchanges := declared.exchanges ++ [(name, exchange_type)] }

/-- A queue that exists already is left as it is. -/
def declare_queue (queue : RabbitQueue) (declared : Declared) : Declared :=
  if queue.name ∈ declared.queues.map RabbitQueue.name then declared
  else { declared with queues := declared.queues ++ [queue] }

def bind (binding : Binding) (declared : Declared) : Declared :=
  if binding ∈ declared.bindings then declared
  else { declared with bindings := declared.bindings ++ [binding] }

/-- The queues that a direct exchange, or the default one, hands a message to.
The routing of the other types of exchanges is not modelled. -/
def route (declared : Declared) (exchange routing_key : String) : Option (List String) :=
  if exchange = "" then
    some ((declared.queues.map RabbitQueue.name).filter (fun name => decide (name = routing_key)))
  else if (exchange, "direct") ∈ declared.exchanges then
    some ((declared.bindings.filter (fun binding =>
      decide (binding.exchange = exchange ∧ binding.routing_key = routing_key))).map Binding.queue)
  else none

/-- Where a dead message of a queue goes. -/
def dead_letters (declared : Declared) (name : String) : Option (List String) :=
  match declared.queues.find? (fun queue => decide (queue.name = name)) with
  | some queue =>
      match queue.x_dead_letter_exchange with
      | some exchange => declared.route exchange (queue.x_dead_letter_routing_key.getD name)
      | none => some []
  | none => some []

end Declared

/-- A subscriber without a routing key: its queue is bound under its own name.
To the default exchange, whose name is empty, nothing is bound; it routes by the
name of the queue with such a binding or without it. -/
def subscribe (queue : RabbitQueue) (exchange exchange_type : String) (declared : Declared) : Declared :=
  ((declared.declare_exchange exchange exchange_type).declare_queue queue).bind ⟨exchange, queue.name, queue.name⟩

def register_consumer (settings : Settings) (declared : Declared) : Declared :=
  let topology := build_topology settings
  subscribe topology.main_queue topology.exchange topology.exchange_type declared

def declare_topology (settings : Settings) (declared : Declared) : Declared :=
  let topology := build_topology settings
  let declared := declared.declare_exchange topology.exchange topology.exchange_type
  let declared := declared.declare_queue topology.retry_queue
  let declared := declared.declare_queue topology.dlq_queue
  declared.bind ⟨topology.exchange, topology.retry_queue.name, settings.RABBITMQ_RETRY_QUEUE⟩

/-- A new broker after the worker process has started. -/
def started (settings : Settings) : Declared :=
  declare_topology settings (register_consumer settings ⟨[], [], []⟩)

/-- Where `_publish_one` publishes: the exchange and the routing key. -/
def outbox_destination (settings : Settings) : String × String :=
  (settings.RABBITMQ_EXCHANGE, settings.RABBITMQ_ROUTING_KEY)

/-- Where `_send_to_dlq` publishes: a queue with no exchange. -/
def dlq_destination (settings : Settings) : String × String :=
  ("", settings.RABBITMQ_DLQ_QUEUE)

end Infrastructure
end Payments
