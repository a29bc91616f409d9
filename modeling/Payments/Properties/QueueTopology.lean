import Payments.Infrastructure.Routing

namespace Payments
namespace Properties

open Infrastructure

/-!
# Whether the topology is closed

The worker publishes with `RABBITMQ_ROUTING_KEY` and the retry queue returns
its messages with it, while the subscriber binds the main queue under
`RABBITMQ_QUEUE`.
-/

/-- Every message goes to the queue that is meant for it and to no other. -/
structure Closed (settings : Settings) : Prop where
  published : (started settings).route (outbox_destination settings).1 (outbox_destination settings).2 =
    some [settings.RABBITMQ_QUEUE]
  rejected : (started settings).dead_letters settings.RABBITMQ_QUEUE = some [settings.RABBITMQ_RETRY_QUEUE]
  expired : (started settings).dead_letters settings.RABBITMQ_RETRY_QUEUE = some [settings.RABBITMQ_QUEUE]
  exhausted : (started settings).route (dlq_destination settings).1 (dlq_destination settings).2 =
    some [settings.RABBITMQ_DLQ_QUEUE]

/-- Three different queues and a direct exchange. -/
structure Separate (settings : Settings) : Prop where
  direct : settings.RABBITMQ_EXCHANGE_TYPE = "direct"
  main_retry : settings.RABBITMQ_QUEUE ≠ settings.RABBITMQ_RETRY_QUEUE
  main_dlq : settings.RABBITMQ_QUEUE ≠ settings.RABBITMQ_DLQ_QUEUE
  retry_dlq : settings.RABBITMQ_RETRY_QUEUE ≠ settings.RABBITMQ_DLQ_QUEUE

variable {settings : Settings}

/-- What is declared when the worker has started. -/
theorem started_eq (separate : Separate settings) :
    started settings =
      { exchanges := [(settings.RABBITMQ_EXCHANGE, "direct")]
        queues := [(build_topology settings).main_queue, (build_topology settings).retry_queue,
          (build_topology settings).dlq_queue]
        bindings := [⟨settings.RABBITMQ_EXCHANGE, settings.RABBITMQ_QUEUE, settings.RABBITMQ_QUEUE⟩,
          ⟨settings.RABBITMQ_EXCHANGE, settings.RABBITMQ_RETRY_QUEUE, settings.RABBITMQ_RETRY_QUEUE⟩] } := by
  simp [started, declare_topology, register_consumer, subscribe, Declared.declare_exchange, Declared.declare_queue,
    Declared.bind, build_topology, separate.direct, separate.main_retry.symm, separate.main_dlq.symm,
    separate.retry_dlq.symm]

/-- The queues that the exchange of the payments hands a message to. -/
theorem route_eq (separate : Separate settings) (routing_key : String) :
    (started settings).route settings.RABBITMQ_EXCHANGE routing_key =
      if settings.RABBITMQ_EXCHANGE = "" then
        some ([settings.RABBITMQ_QUEUE, settings.RABBITMQ_RETRY_QUEUE, settings.RABBITMQ_DLQ_QUEUE].filter
          (fun name => decide (name = routing_key)))
      else
        some ([settings.RABBITMQ_QUEUE, settings.RABBITMQ_RETRY_QUEUE].filter
          (fun name => decide (name = routing_key))) := by
  rw [started_eq separate]
  by_cases default_exchange : settings.RABBITMQ_EXCHANGE = ""
  · rw [Declared.route, if_pos default_exchange, if_pos default_exchange]
    rfl
  · rw [Declared.route, if_neg default_exchange, if_neg default_exchange, if_pos List.mem_cons_self]
    simp only [true_and, List.filter_cons, List.filter_nil]
    split <;> split <;> rfl

/-- A name is the only one that is kept of a list without duplicates. -/
theorem filter_name {names : List String} {name : String} (nodup : names.Nodup) (listed : name ∈ names) :
    names.filter (fun other => decide (other = name)) = [name] := by
  have counted : names.count name = 1 := List.count_eq_one_of_mem nodup listed
  rw [← List.replicate_one, ← counted]
  exact List.filter_eq name

/-- A key leads to the main queue alone exactly when it is the name of that queue. -/
theorem route_main_iff (separate : Separate settings) (routing_key : String) :
    (started settings).route settings.RABBITMQ_EXCHANGE routing_key = some [settings.RABBITMQ_QUEUE] <->
      routing_key = settings.RABBITMQ_QUEUE := by
  rw [route_eq separate]
  constructor
  · intro routed
    have found {names : List String} (same : some (names.filter (fun name => decide (name = routing_key))) =
        some [settings.RABBITMQ_QUEUE]) : routing_key = settings.RABBITMQ_QUEUE := by
      have listed : settings.RABBITMQ_QUEUE ∈ [settings.RABBITMQ_QUEUE] := List.mem_cons_self
      rw [← Option.some.inj same] at listed
      exact (of_decide_eq_true (List.mem_filter.mp listed).2).symm
    split at routed
    · exact found routed
    · exact found routed
  · rintro rfl
    split
    · rw [filter_name (by simp [separate.main_retry, separate.main_dlq, separate.retry_dlq]) List.mem_cons_self]
    · rw [filter_name (by simp [separate.main_retry]) List.mem_cons_self]

/-- A message rejected from the main queue goes to the retry queue alone. -/
theorem rejected_route (separate : Separate settings) :
    (started settings).dead_letters settings.RABBITMQ_QUEUE = some [settings.RABBITMQ_RETRY_QUEUE] := by
  have found : (started settings).dead_letters settings.RABBITMQ_QUEUE =
      (started settings).route settings.RABBITMQ_EXCHANGE settings.RABBITMQ_RETRY_QUEUE := by
    rw [started_eq separate]
    simp [Declared.dead_letters, build_topology]
  rw [found, route_eq separate]
  split
  · rw [filter_name (by simp [separate.main_retry, separate.main_dlq, separate.retry_dlq]) (by simp)]
  · rw [filter_name (by simp [separate.main_retry]) (by simp)]

/-- A message that expires in the retry queue is published with the routing key. -/
theorem expired_route (separate : Separate settings) :
    (started settings).dead_letters settings.RABBITMQ_RETRY_QUEUE =
      (started settings).route settings.RABBITMQ_EXCHANGE settings.RABBITMQ_ROUTING_KEY := by
  rw [started_eq separate]
  simp [Declared.dead_letters, build_topology, separate.main_retry]

/-- The default exchange leads to the dead letter queue. -/
theorem exhausted_route (separate : Separate settings) :
    (started settings).route "" settings.RABBITMQ_DLQ_QUEUE = some [settings.RABBITMQ_DLQ_QUEUE] := by
  rw [started_eq separate, Declared.route, if_pos rfl]
  exact congrArg some (@filter_name
    [settings.RABBITMQ_QUEUE, settings.RABBITMQ_RETRY_QUEUE, settings.RABBITMQ_DLQ_QUEUE] settings.RABBITMQ_DLQ_QUEUE
    (by simp [separate.main_retry, separate.main_dlq, separate.retry_dlq]) (by simp))

/-- The topology is closed exactly when the main queue has the name of the
routing key, whatever the names are otherwise. -/
theorem closed_iff (settings : Settings) (separate : Separate settings) :
    Closed settings <-> settings.RABBITMQ_ROUTING_KEY = settings.RABBITMQ_QUEUE := by
  have main := route_main_iff separate settings.RABBITMQ_ROUTING_KEY
  constructor
  · exact fun closed => main.mp closed.published
  · intro named
    refine ⟨main.mpr named, rejected_route separate, ?_, exhausted_route separate⟩
    rw [expired_route separate]
    exact main.mpr named

theorem default_topology_closed : Closed {} :=
  (closed_iff {} ⟨rfl, by decide, by decide, by decide⟩).mpr rfl

/-- A routing key of its own, with the other names as they are by default. -/
def routed_apart : Settings := { RABBITMQ_ROUTING_KEY := "payments.created" }

/-- A published payment reaches no queue at all. -/
theorem routed_apart_open : Separate routed_apart ∧
    routed_apart.RABBITMQ_RETRY_QUEUE ≠ routed_apart.RABBITMQ_ROUTING_KEY ∧ ¬ Closed routed_apart := by
  refine ⟨⟨rfl, by decide, by decide, by decide⟩, by decide, fun closed => ?_⟩
  have lost : (started routed_apart).route (outbox_destination routed_apart).1 (outbox_destination routed_apart).2 =
      some [] := by decide
  rw [closed.published] at lost
  cases lost

end Properties
end Payments
