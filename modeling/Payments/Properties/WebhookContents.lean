import Payments.Properties.WebhookPayloads

namespace Payments
namespace Properties

open Concurrency Domain Infrastructure Application Prog UnitOfWork Payments.System

/-!
# The content of every webhook

Whatever a batch builds for a delivery says what the committed rows say, and
these say what the creation of the payment has asked for and how its
processing has ended.  A later retry of the delivery says the same.
-/

variable {deployment : Deployment} {world : World} {key : UUID} {row : PaymentModel} {command : CreatePaymentCommand}

/-! ## The fields of a payload -/

/-- The payload repeats the command that has created the payment; the amount is the same number. -/
structure Echoes (command : CreatePaymentCommand) (payload : WebhookPayload) : Prop where
  amount : Exists fun number => Decimal.of_text payload.amount = .ok number ∧ number.value = command.amount.value
  currency : payload.currency = command.currency
  idempotency_key : payload.idempotency_key = command.idempotency_key
  description : payload.description = command.description
  metadata : payload.metadata = command.metadata
  correlation_id : payload.correlation_id = command.correlation_id

/-- The payload agrees with the history of its payment: with its end, and with
the only call of the schedule that has created it. -/
structure PayloadAgrees (actions : List (service deployment).Action) (trace : List Entry) (payload : WebhookPayload) :
    Prop where
  event : payload.event = "payment." ++ payload.status
  status : payload.status = "succeeded" ∨ payload.status = "failed"
  processed_at : Exists fun time => payload.processed_at = some time ∧ Exists fun row : PaymentModel =>
    row.status.value = payload.status ∧ Exists fun run => Exists fun record => Exists fun earlier =>
      TerminalTransition trace payload.payment_id row time run record earlier
  created : Exists fun run => Exists fun command => CreatedBy actions trace payload.payment_id run command ∧
    Echoes command payload ∧ forall other command', CreatedBy actions trace payload.payment_id other command' ->
      other = run ∧ command' = command

theorem value_of_terminal {status : PaymentStatus} (terminal : status.terminal = true) :
    status.value = "succeeded" ∨ status.value = "failed" := by
  cases status with
  | SUCCEEDED => exact .inl rfl
  | FAILED => exact .inr rfl
  | PENDING => cases terminal
  | PROCESSING => cases terminal

theorem texts_of_loaded {payment : Payment} (load : row.to_domain = .ok payment) :
    payment.description = row.description ∧ payment.metadata = row.metadata := by
  rcases bind_ok load with ⟨_, _, rest⟩
  rcases bind_ok rest with ⟨_, _, returned⟩
  cases returned
  exact ⟨rfl, rfl⟩

/-- The frozen name of the event is the one of the status. -/
theorem PaymentsKept.event_agrees (kept : PaymentsKept world) {id : UUID} {delivery : WebhookDeliveryModel}
    (committed : (world.cell .webhook_deliveries id).committed = some delivery)
    (found : (world.cell .payments delivery.payment_id).committed = some row) (final : Final row) :
    delivery.event_type = "payment." ++ row.status.value := by
  cases kept.shaped delivery.payment_id row found with
  | pending fresh untried => exact absurd final fresh.not_final
  | ended _ tried =>
      rcases tried.delivery with ⟨sole, ⟨key, committed', _, only⟩, event⟩
      have same := only id delivery committed rfl
      subst same
      rw [committed] at committed'
      cases committed'
      exact event

/-- Payload and command agree where the row does with the command and the
delivery with the row. -/
theorem Requested.echoes (requested : Requested command row) {payment : Payment} (load : row.to_domain = .ok payment)
    {delivery : WebhookDelivery} (correlated : row.correlation_id = delivery.correlation_id) :
    Echoes command (build_webhook_payload payment delivery) := by
  have reflects := requested.reflects
  have orders := (loaded_from load).orders
  have texts := texts_of_loaded load
  refine ⟨⟨row.amount, ?_, reflects.amount⟩, orders.currency.trans reflects.currency,
    orders.idempotency_key.trans reflects.idempotency_key, texts.1.trans reflects.description,
    texts.2.trans reflects.metadata, correlated.symm.trans reflects.correlation_id⟩
  have text : (build_webhook_payload payment delivery).amount = row.amount.str := congrArg Decimal.str orders.amount
  rw [text]
  exact requested.amount_shown

/-- Every payload that is built for a delivery agrees with the history of its
payment, and whatever is built for the same delivery later is identical.  The
correlation needs that the consumer is the only caller of the process handler,
as the workers are put together. -/
theorem webhook_payloads_agree {actions : List (service deployment).Action} {state : (service deployment).State}
    (executed : Machine.runFrom (Machine.fresh World.initial) actions = some state) (consumed : Consumed actions)
    {request : WebhookRequest} (built : Built request state.shared) :
    PayloadAgrees actions state.shared.trace request.payload ∧
      forall later other, Machine.Path (fun _ _ => True) state later -> Built other later.shared ->
        other.x_event_id = request.x_event_id -> other.payload = request.payload := by
  have reached : Machine.Reachable (fun _ _ => True) World.initial state := Machine.Path.of_runFrom actions executed
  have kept := (payment_verified deployment).invariant reached
  have portrays := portrays_built reached built
  refine ⟨?_, fun later other path built' same => ?_⟩
  · rcases portrays with ⟨delivery, payment, committed, ⟨row, found, final, load⟩, rfl⟩
    have loaded := loaded_from load
    have named : payment.id = delivery.payment_id :=
      loaded.id.trans (kept.keyed .payments delivery.payment_id row (.committed found))
    have status : payment.status = row.status := loaded.status
    have event := kept.event_agrees committed found final
    rcases terminal_transition reached found final with ⟨time, run, record, earlier, ended⟩
    rcases created_by executed found with ⟨creator, command, created, requested⟩
    rcases correlated_along executed consumed _ delivery (.committed committed) with ⟨row', found', correlated⟩
    rw [found] at found'
    cases found'
    rw [← named] at ended created
    refine ⟨?_, ?_, ⟨time, loaded.processed_at.trans ended.processed_at, row, ?_, run, record, earlier, ended⟩, creator,
      command, created, requested.echoes load correlated, fun other command' created' => ?_⟩
    · exact event.trans (congrArg (fun status => "payment." ++ PaymentStatus.value status) status.symm)
    · have terminal : payment.status.terminal = true := status ▸ final.terminal
      exact value_of_terminal terminal
    · exact congrArg PaymentStatus.value status.symm
    · exact created.unique executed created'
  · have portrays' := portrays_built (reached.trans path) built'
    exact congrArg WebhookRequest.payload ((portrays.path reached path).unique portrays' same)

/-! ## The webhook of one payment -/

/-- Payment 1 is created, its message is published, a consumer processes it
with success, and run 10 sends delivery 4. -/
def one_webhook : List (service sample_deployment).Action :=
  creating ++ .start 1 (.outbox {} 1) :: calmly 1 (List.replicate 7 (10, 0)) ++
    [.env (.start_publish 1 0), .env (.land_publish 1 0), .env (.finish_publish 1 0 true)] ++
    calmly 1 (List.replicate 4 (10, 0)) ++ .start 2 (.consume {} first_message) ::
    calmly 2 [(20, 0), (20, 0), (20, 0), (20, 0), (20, 3), (20, 0), (20, 0), (30, 0), (30, 0), (30, 0), (30, 0), (30, 4),
      (30, 0), (30, 0), (30, 0), (30, 0)] ++ .start 10 (.deliver 10 10) ::
    calmly 10 [(40, 0), (40, 0), (40, 0), (40, 0)] ++ [.env (.start_send 10 0)]

def processes : (service sample_deployment).Action -> Bool
  | .start _ (.process _) => true
  | _ => false

theorem consumed_of_unprocessed {actions : List (service sample_deployment).Action}
    (unprocessed : actions.any processes = false) : Consumed actions := by
  intro run command listed
  have found := List.any_eq_false.mp unprocessed _ listed
  exact found rfl

/-- What the first task of run 10 posts. -/
def first_request (world : World) : Option WebhookRequest :=
  (world.sending 10).tasks.head?.bind SendTask.request

theorem built_of_first {world : World} {request : WebhookRequest} (found : first_request world = some request) :
    Built request world := by
  rcases Option.bind_eq_some_iff.mp found with ⟨task, first, holds⟩
  exact .waiting 10 task (List.mem_of_mem_head? first) holds

theorem one_webhook_agrees :
    Exists fun state : (service sample_deployment).State => Exists fun request =>
      Machine.runFrom (Machine.fresh World.initial) one_webhook = some state ∧ Built request state.shared ∧
        request.payload.event = "payment.succeeded" ∧ request.payload.amount = "5.00" ∧
        PayloadAgrees one_webhook state.shared.trace request.payload := by
  have sent : (Machine.runFrom (Machine.fresh World.initial) one_webhook).map (fun state =>
      (first_request state.shared).map (fun request => (request.payload.event, request.payload.amount))) =
      some (some ("payment.succeeded", "5.00")) := by decide +kernel
  rcases Option.map_eq_some_iff.mp sent with ⟨state, ran, found⟩
  rcases Option.map_eq_some_iff.mp found with ⟨request, posted, same⟩
  have built := built_of_first posted
  have agrees := (webhook_payloads_agree ran (consumed_of_unprocessed (by decide)) built).1
  exact ⟨state, request, ran, built, congrArg Prod.fst same, congrArg Prod.snd same, agrees⟩

end Properties
end Payments
