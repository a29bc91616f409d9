import Payments.System.Service

namespace Payments
namespace System

open Concurrency Domain Infrastructure Application Prog UnitOfWork

/-!
# The operations each program can call

One predicate per handler and worker, and the proof that its program calls
nothing else, whatever the operations answer.  A property that does not concern
a program is proved for it from this list and not from its text.
-/

/-- The end of every transaction. -/
inductive ScopeCalls : Op -> Prop where
  | commit : ScopeCalls .commit
  | rollback : ScopeCalls .rollback
  | close : ScopeCalls .close

inductive CreateCalls : Op -> Prop where
  | now : CreateCalls .now
  | uuid7 : CreateCalls .uuid7
  | insert (row : Option PaymentModel) : CreateCalls (.insert_on_conflict_do_nothing row)
  | by_key (idempotency_key : String) :
      CreateCalls (.select .payments (.payment_by_idempotency_key idempotency_key))
  | event (id : UUID) (event : DomainEvent) :
      CreateCalls (.add .outbox_messages (OutboxMessageModel.of_event id event))
  | scope {op : Op} (ends : ScopeCalls op) : CreateCalls op

inductive ProcessCalls : Op -> Prop where
  | now : ProcessCalls .now
  | uuid7 : ProcessCalls .uuid7
  | payment (payment_id : UUID) : ProcessCalls (.select .payments (.payment_by_id payment_id))
  | transition (payment_id : UUID) (version : Nat) (status target : PaymentStatus)
      (processed_at : Option Datetime) :
      ProcessCalls (.update .payments (.payment_transition payment_id version status target processed_at))
  | attempts (payment_id : UUID) :
      ProcessCalls (.select .payment_attempts (.attempts_by_payment_id payment_id))
  | add_attempt (row : PaymentAttemptModel) : ProcessCalls (.add .payment_attempts row)
  | progress (attempt : PaymentAttempt) :
      ProcessCalls (.update .payment_attempts (.attempt_progress attempt))
  | add_delivery (id payment_id : UUID) (event_type : String) (correlation_id : Option String) (created_at : Datetime) :
      ProcessCalls (.add .webhook_deliveries (WebhookDeliveryModel.to_model
        (WebhookDelivery.create id payment_id event_type correlation_id created_at)))
  | charge_call (payment_id : UUID) (amount : Money) (idempotency_key : String) :
      ProcessCalls (.charge_call payment_id amount idempotency_key)
  | charge_return (payment_id : UUID) : ProcessCalls (.charge_return payment_id)
  | scope {op : Op} (ends : ScopeCalls op) : ProcessCalls op

inductive GetCalls : Op -> Prop where
  | payment (payment_id : UUID) : GetCalls (.select .payments (.payment_by_id payment_id))
  | attempts (payment_id : UUID) :
      GetCalls (.select .payment_attempts (.attempts_by_payment_id payment_id))
  | scope {op : Op} (ends : ScopeCalls op) : GetCalls op

inductive DeliverCalls : Op -> Prop where
  | now : DeliverCalls .now
  | due (now : Datetime) (limit : Int) :
      DeliverCalls (.select_for_update .webhook_deliveries (.due_deliveries now) limit)
  | payment (payment_id : UUID) : DeliverCalls (.select .payments (.payment_by_id payment_id))
  | send_all (requests : List (WebhookDelivery × Option WebhookRequest)) (concurrency : Int) :
      DeliverCalls (.send_all requests concurrency)
  | sent_all : DeliverCalls .sent_all
  | progress (delivery : WebhookDelivery) :
      DeliverCalls (.update .webhook_deliveries (.delivery_progress delivery))
  | scope {op : Op} (ends : ScopeCalls op) : DeliverCalls op

inductive OutboxCalls : Op -> Prop where
  | now : OutboxCalls .now
  | uniform (low high : Rat) : OutboxCalls (.uniform low high)
  | update (statement : Update .outbox_messages) : OutboxCalls (.update .outbox_messages statement)
  | claim (query : Query .outbox_messages) (limit : Int) (statement : Update .outbox_messages) :
      OutboxCalls (.update_claimable .outbox_messages query limit statement)
  | purge (cutoff : Datetime) : OutboxCalls (.delete_finished cutoff)
  | publish_all (messages : List OutboxMessage) (concurrency : Int) :
      OutboxCalls (.publish_all messages concurrency)
  | published_all : OutboxCalls .published_all
  | scope {op : Op} (ends : ScopeCalls op) : OutboxCalls op

inductive ConsumeCalls : Op -> Prop where
  | process {op : Op} (calls : ProcessCalls op) : ConsumeCalls op
  | publish_dlq (message : Message) : ConsumeCalls (.publish_dlq message)
  | ack : ConsumeCalls .ack
  | nack : ConsumeCalls .nack

section

variable {allowed : Op -> Prop} {X : Type}

theorem scope_calls {body : Program X} (ends : forall op, ScopeCalls op -> allowed op)
    (calls : body.OnlyCalls allowed) : (scope body).OnlyCalls allowed := by
  refine OnlyCalls.tryFinally (OnlyCalls.tryCatch calls (fun error => ?_))
    (OnlyCalls.perform (ends _ .close))
  exact OnlyCalls.bind (OnlyCalls.perform (ends _ .rollback)) (fun _ => OnlyCalls.raise error)

theorem transactional_calls {commit : Bool} {body : Program X}
    (ends : forall op, ScopeCalls op -> allowed op) (calls : body.OnlyCalls allowed) :
    (transactional commit body).OnlyCalls allowed := by
  refine scope_calls ends (OnlyCalls.bind calls (fun result => ?_))
  cases commit with
  | true => exact OnlyCalls.bind (OnlyCalls.perform (ends _ .commit)) (fun _ => OnlyCalls.ret result)
  | false => exact OnlyCalls.ret result

end

/-! ## Handlers -/

theorem create_calls (command : CreatePaymentCommand) :
    (CreatePaymentHandler.handle command).OnlyCalls CreateCalls := by
  refine transactional_calls (fun _ => .scope) ?_
  refine OnlyCalls.bind (OnlyCalls.perform .now) (fun now => ?_)
  refine OnlyCalls.bind (OnlyCalls.ofExcept _) (fun values => ?_)
  refine OnlyCalls.bind (OnlyCalls.perform .uuid7) (fun id => ?_)
  refine OnlyCalls.bind (OnlyCalls.bind (OnlyCalls.perform (.insert _)) (fun _ => OnlyCalls.ret _))
    (fun inserted => ?_)
  cases inserted with
  | none =>
      refine OnlyCalls.bind (OnlyCalls.bind (OnlyCalls.perform (.by_key _)) (fun rows => ?_))
        (fun existing => ?_)
      · match rows with
        | [] => exact OnlyCalls.ret _
        | [_] => exact OnlyCalls.bind (OnlyCalls.ofExcept _) (fun _ => OnlyCalls.ret _)
        | _ :: _ :: _ => exact OnlyCalls.raise _
      · cases existing with
        | none => exact OnlyCalls.raise _
        | some existing => exact OnlyCalls.ret _
  | some payment =>
      refine OnlyCalls.bind (OnlyCalls.forEach (fun event => ?_) _) (fun _ => OnlyCalls.ret _)
      exact OnlyCalls.bind (OnlyCalls.perform .uuid7) (fun id => OnlyCalls.perform (.event id event))

/-- The operations of the body for one command, with the rows they write. -/
inductive CreationCalls (command : CreatePaymentCommand) : Op -> Prop where
  | now : CreationCalls command .now
  | uuid7 : CreationCalls command .uuid7
  | insert (values : IdempotencyKey × Money) (id : UUID) (now : Datetime)
      (valid : CreatePaymentHandler.validated command = .ok values) :
      CreationCalls command (.insert_on_conflict_do_nothing
        (PaymentModel.of_payment (CreatePaymentHandler.new_payment command values id now)))
  | by_key : CreationCalls command (.select .payments (.payment_by_idempotency_key command.idempotency_key))
  | event (values : IdempotencyKey × Money) (id event_id : UUID) (now : Datetime) (event : DomainEvent)
      (valid : CreatePaymentHandler.validated command = .ok values)
      (queued : event ∈ (CreatePaymentHandler.new_payment command values id now).events) :
      CreationCalls command (.add .outbox_messages (OutboxMessageModel.of_event event_id event))

theorem creation_calls (command : CreatePaymentCommand) :
    (CreatePaymentHandler.body command).OnlyCalls (CreationCalls command) := by
  refine OnlyCalls.bind (OnlyCalls.perform .now) (fun now => ?_)
  refine OnlyCalls.ofExcept_bind (fun values valid => ?_)
  refine OnlyCalls.bind (OnlyCalls.perform .uuid7) (fun id => ?_)
  have inserted : (SqlAlchemyPaymentRepository.try_insert
      (CreatePaymentHandler.new_payment command values id now)).Returns (fun result =>
        result = none ∨ result = some (CreatePaymentHandler.new_payment command values id now)) := by
    refine Returns.bind (fun rowcount => Returns.ret ?_)
    by_cases one : rowcount = 1
    · exact .inr (if_pos one)
    · exact .inl (if_neg one)
  refine OnlyCalls.bind_returns (OnlyCalls.bind (OnlyCalls.perform (.insert values id now valid))
    (fun _ => OnlyCalls.ret _)) inserted (fun result known => ?_)
  rcases known with rfl | rfl
  · refine OnlyCalls.bind (OnlyCalls.bind (OnlyCalls.perform .by_key) (fun rows => ?_)) (fun existing => ?_)
    · match rows with
      | [] => exact OnlyCalls.ret _
      | [_] => exact OnlyCalls.bind (OnlyCalls.ofExcept _) (fun _ => OnlyCalls.ret _)
      | _ :: _ :: _ => exact OnlyCalls.raise _
    · cases existing with
      | none => exact OnlyCalls.raise _
      | some existing => exact OnlyCalls.ret _
  · refine OnlyCalls.bind (OnlyCalls.forEach_mem (fun event queued => ?_)) (fun _ => OnlyCalls.ret _)
    refine OnlyCalls.bind (OnlyCalls.perform .uuid7) (fun event_id => OnlyCalls.perform ?_)
    exact .event values id event_id now event valid queued

/-- `SqlAlchemyPaymentRepository.get`, in any program that may select. -/
theorem get_payment_calls {allowed : Op -> Prop} {payment_id : UUID}
    (select : allowed (.select .payments (.payment_by_id payment_id))) :
    (SqlAlchemyPaymentRepository.get payment_id).OnlyCalls allowed := by
  refine OnlyCalls.bind (OnlyCalls.perform select) (fun rows => ?_)
  cases List.head? rows with
  | none => exact OnlyCalls.ret _
  | some row => exact OnlyCalls.bind (OnlyCalls.ofExcept _) (fun _ => OnlyCalls.ret _)

theorem settle_calls (payment : Payment) (result : GatewayResult) (finished_at : Datetime) :
    (ProcessPaymentHandler.settle payment result finished_at).OnlyCalls ProcessCalls := by
  rw [ProcessPaymentHandler.settle]
  split
  · refine OnlyCalls.bind (OnlyCalls.ofExcept _) (fun _ => OnlyCalls.bind (OnlyCalls.ofExcept _)
      (fun _ => OnlyCalls.bind ?_ (fun _ => OnlyCalls.ret _)))
    exact OnlyCalls.bind (OnlyCalls.perform (.transition _ _ _ _ _)) (fun _ => OnlyCalls.ret _)
  · refine OnlyCalls.bind (OnlyCalls.ofExcept _) (fun _ => OnlyCalls.bind (OnlyCalls.ofExcept _)
      (fun _ => OnlyCalls.bind ?_ (fun _ => OnlyCalls.ret _)))
    exact OnlyCalls.bind (OnlyCalls.perform (.transition _ _ _ _ _)) (fun _ => OnlyCalls.ret _)

theorem finalize_calls (command : ProcessPaymentCommand) (payment : Payment) (result : GatewayResult) :
    (ProcessPaymentHandler.finalize command payment result).OnlyCalls ProcessCalls := by
  refine OnlyCalls.bind (OnlyCalls.perform .now) (fun now => OnlyCalls.bind (settle_calls _ _ _)
    (fun settled => ?_))
  dsimp only
  split
  · exact OnlyCalls.raise _
  · refine OnlyCalls.bind (OnlyCalls.bind (OnlyCalls.perform (.progress _)) (fun _ => OnlyCalls.ret _))
      (fun _ => ?_)
    refine OnlyCalls.bind (OnlyCalls.perform .uuid7) (fun id => ?_)
    exact OnlyCalls.bind (OnlyCalls.perform (.add_delivery _ _ _ _ _)) (fun _ => OnlyCalls.ret _)

theorem charge_calls (command : ProcessPaymentCommand) (payment : Payment) (started_at : Datetime) :
    (ProcessPaymentHandler.charge command payment started_at).OnlyCalls ProcessCalls := by
  refine OnlyCalls.bind (OnlyCalls.bind (OnlyCalls.perform (.attempts _)) (fun _ => OnlyCalls.ret _))
    (fun attempts => ?_)
  refine OnlyCalls.bind (OnlyCalls.perform .uuid7) (fun id => ?_)
  refine OnlyCalls.bind (OnlyCalls.ofExcept _) (fun begun => ?_)
  refine OnlyCalls.bind (OnlyCalls.perform (.add_attempt _)) (fun _ => ?_)
  refine OnlyCalls.bind (OnlyCalls.perform (.charge_call _ _ _)) (fun _ => ?_)
  exact OnlyCalls.bind (OnlyCalls.perform (.charge_return _)) (fun result => finalize_calls _ _ result)

theorem process_calls (command : ProcessPaymentCommand) :
    (ProcessPaymentHandler.handle command).OnlyCalls ProcessCalls := by
  refine transactional_calls (fun _ => .scope) ?_
  refine OnlyCalls.bind (get_payment_calls (.payment _)) (fun found => ?_)
  cases found with
  | none => exact OnlyCalls.ret _
  | some payment =>
      dsimp only
      split
      · exact OnlyCalls.ret _
      · split
        · exact OnlyCalls.ret _
        · refine OnlyCalls.bind (OnlyCalls.perform .now) (fun now => ?_)
          refine OnlyCalls.bind (OnlyCalls.ofExcept _) (fun processing => ?_)
          refine OnlyCalls.bind (OnlyCalls.bind (OnlyCalls.perform (.transition _ _ _ _ _))
            (fun _ => OnlyCalls.ret _)) (fun claimed => ?_)
          cases claimed with
          | true => exact charge_calls _ _ _
          | false => exact OnlyCalls.ret _

theorem get_calls (query : GetPaymentQuery) : (GetPaymentHandler.handle query).OnlyCalls GetCalls := by
  refine transactional_calls (fun _ => .scope) ?_
  refine OnlyCalls.bind (get_payment_calls (.payment _)) (fun found => ?_)
  cases found with
  | none => exact OnlyCalls.raise _
  | some payment =>
      exact OnlyCalls.bind (OnlyCalls.bind (OnlyCalls.perform (.attempts _)) (fun _ => OnlyCalls.ret _))
        (fun _ => OnlyCalls.ret _)

theorem load_payments_calls (deliveries : List WebhookDelivery)
    (payments : DeliverDueWebhooksHandler.LoadedPayments) :
    (DeliverDueWebhooksHandler.load_payments deliveries payments).OnlyCalls DeliverCalls := by
  induction deliveries generalizing payments with
  | nil => exact OnlyCalls.ret _
  | cons delivery rest inductionHypothesis =>
      rw [DeliverDueWebhooksHandler.load_payments]
      split
      · exact inductionHypothesis payments
      · exact OnlyCalls.bind (get_payment_calls (.payment _)) (fun _ => inductionHypothesis _)

theorem record_all_calls (retry_policy : RetryPolicy)
    (results : List (WebhookDelivery × Option WebhookSendResult)) :
    (DeliverDueWebhooksHandler.record_all retry_policy results).OnlyCalls DeliverCalls := by
  induction results with
  | nil => exact OnlyCalls.ret _
  | cons result rest inductionHypothesis =>
      rcases result with ⟨delivery, _ | result⟩
      · exact inductionHypothesis
      · refine OnlyCalls.bind (OnlyCalls.bind (OnlyCalls.perform .now) (fun now => ?_))
          (fun _ => OnlyCalls.bind inductionHypothesis (fun _ => OnlyCalls.ret _))
        refine OnlyCalls.bind (OnlyCalls.ofExcept _) (fun recorded => OnlyCalls.bind ?_ (fun _ => OnlyCalls.ret _))
        exact OnlyCalls.bind (OnlyCalls.perform (.progress _)) (fun _ => OnlyCalls.ret _)

theorem deliver_calls (batch_size : Int) (retry_policy : RetryPolicy) (concurrency : Int) :
    (DeliverDueWebhooksHandler.handle batch_size retry_policy concurrency).OnlyCalls DeliverCalls := by
  refine transactional_calls (fun _ => .scope) ?_
  refine OnlyCalls.bind (OnlyCalls.perform .now) (fun now => ?_)
  refine OnlyCalls.bind (OnlyCalls.bind (OnlyCalls.perform (.due _ _)) (fun _ => OnlyCalls.ret _))
    (fun deliveries => ?_)
  split
  · exact OnlyCalls.ret _
  · refine OnlyCalls.bind (load_payments_calls _ _) (fun payments => ?_)
    refine OnlyCalls.bind (OnlyCalls.bind (OnlyCalls.perform (.send_all _ _)) (fun _ =>
      OnlyCalls.perform .sent_all)) (fun results => ?_)
    exact OnlyCalls.bind (record_all_calls _ _) (fun _ => OnlyCalls.ret _)

/-! ## Workers -/

theorem update_outbox_calls (statement : Update .outbox_messages) :
    (await (.update .outbox_messages statement)).OnlyCalls OutboxCalls :=
  OnlyCalls.perform (.update statement)

theorem mark_failure_calls (settings : Settings) (worker_id : UUID) (now : Datetime)
    (message : OutboxMessage) :
    (OutboxWorker.mark_failure settings worker_id now message).OnlyCalls OutboxCalls := by
  refine OnlyCalls.bind ?_ (fun retry_at => OnlyCalls.bind (update_outbox_calls _) (fun _ => OnlyCalls.ret _))
  rw [OutboxWorker.next_retry_at]
  split
  · exact OnlyCalls.ret _
  · split
    · exact OnlyCalls.ret _
    · exact OnlyCalls.bind (OnlyCalls.perform (.uniform _ _)) (fun _ => OnlyCalls.ret _)

theorem publish_batch_calls (settings : Settings) (worker_id : UUID) :
    (OutboxWorker.publish_batch settings worker_id).OnlyCalls OutboxCalls := by
  refine OnlyCalls.bind (OnlyCalls.perform .now) (fun now => OnlyCalls.bind ?_ (fun messages => ?_))
  · refine scope_calls (fun _ => .scope) (OnlyCalls.bind ?_ (fun _ => OnlyCalls.bind ?_ (fun _ => ?_)))
    · exact OnlyCalls.bind (update_outbox_calls _) (fun _ => OnlyCalls.bind (update_outbox_calls _)
        (fun _ => OnlyCalls.ret _))
    · exact OnlyCalls.bind (OnlyCalls.perform (.claim _ _ _)) (fun _ => OnlyCalls.ret _)
    · exact OnlyCalls.bind (OnlyCalls.perform (.scope .commit)) (fun _ => OnlyCalls.ret _)
  · split
    · exact OnlyCalls.ret _
    · rw [OutboxWorker.publish]
      split
      · exact OnlyCalls.raise _
      · refine OnlyCalls.bind (OnlyCalls.perform (.publish_all _ _)) (fun _ => ?_)
        refine OnlyCalls.bind (OnlyCalls.perform .published_all) (fun results => ?_)
        dsimp only
        split
        · exact OnlyCalls.ret _
        · refine scope_calls (fun _ => .scope) (OnlyCalls.bind ?_ (fun _ => OnlyCalls.bind ?_ (fun _ =>
            OnlyCalls.perform (.scope .commit))))
          · exact OnlyCalls.forEach (fun _ => OnlyCalls.bind (update_outbox_calls _)
              (fun _ => OnlyCalls.ret _)) _
          · exact OnlyCalls.forEach (fun _ => mark_failure_calls _ _ _ _) _

theorem purge_processed_calls (settings : Settings) :
    (OutboxWorker.purge_processed settings).OnlyCalls OutboxCalls := by
  refine OnlyCalls.bind (OnlyCalls.perform .now) (fun now => ?_)
  refine scope_calls (fun _ => .scope) (OnlyCalls.bind (OnlyCalls.bind (update_outbox_calls _)
    (fun _ => OnlyCalls.ret _)) (fun _ => OnlyCalls.bind (OnlyCalls.perform (.purge _)) (fun _ =>
      OnlyCalls.perform (.scope .commit))))

theorem logged_calls {program : Program Unit} (calls : program.OnlyCalls OutboxCalls) :
    (OutboxWorker.logged program).OnlyCalls OutboxCalls := by
  refine OnlyCalls.tryCatch calls (fun error => ?_)
  cases error <;> first | exact OnlyCalls.raise _ | exact OnlyCalls.ret _

theorem outbox_calls (settings : Settings) (worker_id : UUID) (done cycles : Nat) :
    (OutboxWorker.run settings worker_id done cycles).OnlyCalls OutboxCalls := by
  induction cycles generalizing done with
  | zero => exact OnlyCalls.ret _
  | succ cycles inductionHypothesis =>
      rw [OutboxWorker.run]
      refine OnlyCalls.bind (logged_calls (publish_batch_calls settings worker_id)) (fun _ => ?_)
      split
      · exact OnlyCalls.raise _
      · dsimp only
        split
        · exact OnlyCalls.bind (logged_calls (purge_processed_calls settings))
            (fun _ => inductionHypothesis (done + 1))
        · exact inductionHypothesis (done + 1)

theorem consume_calls (settings : Settings) (message : Message) :
    (PaymentConsumerHandler.handle settings message).OnlyCalls ConsumeCalls := by
  have dlq : (PaymentConsumerHandler.send_to_dlq message).OnlyCalls ConsumeCalls :=
    OnlyCalls.perform (.publish_dlq _)
  have process : forall aggregate_id correlation_id,
      (PaymentConsumerHandler.process aggregate_id correlation_id).OnlyCalls ConsumeCalls := by
    intro aggregate_id correlation_id
    cases aggregate_id with
    | missing => exact OnlyCalls.raise _
    | malformed => exact OnlyCalls.raise _
    | uuid payment_id =>
        exact OnlyCalls.bind ((process_calls _).mono (fun _ => .process)) (fun _ => OnlyCalls.ret _)
  have route : (PaymentConsumerHandler.route settings message).OnlyCalls ConsumeCalls := by
    rw [PaymentConsumerHandler.route]
    split
    · exact dlq
    · exact dlq
    · split
      · exact OnlyCalls.ret _
      · split
        · exact dlq
        · exact process _ _
  refine OnlyCalls.bind (OnlyCalls.tryCatch (OnlyCalls.bind route (fun _ => OnlyCalls.ret _)) ?_)
    (fun ended => ?_)
  · intro error
    cases error <;> first | exact OnlyCalls.raise _ | exact OnlyCalls.ret _
  · cases ended with
    | true => exact OnlyCalls.perform .ack
    | false => exact OnlyCalls.perform .nack

/-- Every operation a job can call. -/
def JobCalls : Job -> Op -> Prop
  | .create _ => CreateCalls
  | .process _ => ProcessCalls
  | .get _ => GetCalls
  | .deliver _ _ => DeliverCalls
  | .outbox _ _ => OutboxCalls
  | .consume _ _ => ConsumeCalls

theorem job_calls (deployment : Deployment) (run : RunId) (job : Job) :
    (program deployment run job).OnlyCalls (JobCalls job) := by
  cases job with
  | create command => exact create_calls command
  | process command => exact process_calls command
  | get query => exact get_calls query
  | deliver batch_size concurrency => exact deliver_calls _ _ _
  | outbox settings cycles => exact outbox_calls settings run 0 cycles
  | consume settings message => exact consume_calls settings message

end System
end Payments
