import Payments.Properties.PaymentHandover
import Payments.Properties.PaymentOrigins
import Payments.Properties.ProcessingArguments

namespace Payments
namespace Properties

open Concurrency Domain Infrastructure Application Prog UnitOfWork Payments.System

/-!
# The correlation of a delivery

A correlation goes from the payment into its event, with the event into the
message, and with the message to the consumer, which gives it to the handler.
So the handler adds a delivery with the correlation of the payment, provided
that only the consumer calls it.
-/

variable {deployment : Deployment} {world after : World} {run : RunId} {op : Op} {message : Message}

/-- The consumer is the only caller of the process handler. -/
def Consumed (actions : List (service deployment).Action) : Prop :=
  forall run command, .start run (.process command) ∉ actions

theorem Consumed.earlier {actions : List (service deployment).Action} {action : (service deployment).Action}
    (consumed : Consumed (actions ++ [action])) : Consumed actions :=
  fun run command listed => consumed run command (List.mem_append_left _ listed)

/-- A consumer works on a message that was sent for an outbox row on record. -/
theorem consumed_published {state : (service deployment).State} {settings : Settings} {rest : Program Unit}
    (reached : Machine.Reachable (fun _ _ => True) World.initial state)
    (running : state.phase run = .running (.consume settings message) rest) : Published state.shared.trace message := by
  induction reached generalizing rest with
  | refl => cases running
  | @step state next action earlier taken _ inductionHypothesis =>
      have evolves : PaymentsEvolve state.shared next.shared :=
        (payment_verified deployment).evolves earlier (.step action .refl taken trivial)
      rcases Machine.running_before taken running with ⟨before, running'⟩ | ⟨shared, absent, started, rfl⟩
      · exact (inductionHypothesis running').mono evolves.trace
      · have waiting : message ∈ state.shared.broker.main := by
          have started : (if message ∈ state.shared.broker.main then some (deliver run message state.shared)
              else none) = some shared := started
          split at started
          · assumption
          · cases started
        exact ((progress_along earlier).messages.held message (.flying (.main waiting))).mono evolves.trace

/-- The body of a published message names a committed payment with its correlation. -/
theorem CreationsKept.correlated (kept : CreationsKept world) (published : Published world.trace message)
    {event_type : Option String} {key : UUID} {correlation_id : Option String}
    (body : message.body = .object event_type (.uuid key) correlation_id) :
    Exists fun payment => (world.cell .payments key).committed = some payment ∧
      payment.correlation_id = correlation_id := by
  rcases published with ⟨row, posted, copy⟩
  rcases kept.announcing row.id row posted with ⟨payment, found, announces⟩
  rcases announces.payload with ⟨occurred_at, amount, tells⟩
  have sent : Body.object (some row.payload.event_type) (.uuid row.payload.aggregate_id) row.payload.correlation_id =
      .object event_type (.uuid key) correlation_id := copy.body.symm.trans body
  rw [← announces.aggregate_id] at sent
  have parts := Body.object.inj sent
  have named := AggregateId.uuid.inj parts.2.1
  have told := parts.2.2
  rw [tells] at told
  exact ⟨payment, named ▸ found, told⟩

/-- Every version of a delivery has the correlation of its payment. -/
def Correlated (world : World) : Prop :=
  forall id row, (world.cell .webhook_deliveries id).Carries row ->
    Exists fun payment => (world.cell .payments row.payment_id).committed = some payment ∧
      payment.correlation_id = row.correlation_id

theorem correlation_id_of_origin {row later : PaymentModel} (same : origin later = origin row) :
    later.correlation_id = row.correlation_id := by
  have correlations := congrArg PaymentModel.correlation_id same
  exact correlations

/-- Every version stems from an earlier one of the same payment and correlation. -/
theorem Correlated.of_earlier (known : Correlated world) (evolves : PaymentsEvolve world after)
    (earlier : forall id row, (after.cell .webhook_deliveries id).Carries row ->
      Exists fun old => (world.cell .webhook_deliveries id).Carries old ∧ row.payment_id = old.payment_id ∧
        row.correlation_id = old.correlation_id) : Correlated after := by
  intro id row carried
  rcases earlier id row carried with ⟨old, before, owner, correlation⟩
  rcases known id old before with ⟨payment, found, told⟩
  rcases evolves.grows old.payment_id payment found with ⟨later, found', grows⟩
  refine ⟨later, owner ▸ found', ?_⟩
  rw [correlation_id_of_origin grows.origin, told, correlation]

theorem Correlated.executed (known : Correlated world) (evolves : PaymentsEvolve world after)
    {answer : Except Error op.Answer} (executed : World.Executed run world op after answer)
    (added : forall row, op = .add .webhook_deliveries row ->
      Exists fun payment => (after.cell .payments row.payment_id).committed = some payment ∧
        payment.correlation_id = row.correlation_id) : Correlated after := by
  by_cases adds : Exists fun row => op = .add .webhook_deliveries row
  · rcases adds with ⟨new, rfl⟩
    intro id row carried
    rcases (executed.cell .webhook_deliveries id).carries carried with before | writes
    · rcases known id row before with ⟨payment, found, told⟩
      rcases evolves.grows row.payment_id payment found with ⟨later, found', grows⟩
      exact ⟨later, found', (correlation_id_of_origin grows.origin).trans told⟩
    · cases writes with
      | updated statement time old operation => cases operation
      | claimed query limit statement time old operation => cases operation
      | added operation own => exact added row operation
      | inserted new table => cases table
  · refine known.of_earlier evolves (fun id row carried => ?_)
    rcases (executed.cell .webhook_deliveries id).carries carried with before | writes
    · exact ⟨row, before, rfl, rfl⟩
    · cases writes with
      | updated statement time old operation found selected same =>
          subst same
          cases statement
          exact ⟨old, Cell.carries_of_visible found, rfl, rfl⟩
      | claimed query limit statement time old operation found selected same =>
          subst same
          cases statement
          exact ⟨old, Cell.carries_of_visible found, rfl, rfl⟩
      | added operation own => exact absurd ⟨row, operation⟩ adds
      | inserted new table => cases table

/-- Whatever a run adds, it has got its correlation from the payment. -/
theorem added_correlated {actions : List (service deployment).Action} {state : (service deployment).State} {job : Job}
    {row : WebhookDeliveryModel} {next : Except Error Unit -> Program job.Result}
    (executed : Machine.runFrom (Machine.fresh World.initial) actions = some state) (consumed : Consumed actions)
    (running : state.phase run = .running job (.call (.add .webhook_deliveries row) next)) :
    Exists fun payment => (state.shared.cell .payments row.payment_id).committed = some payment ∧
      payment.correlation_id = row.correlation_id := by
  have reached : Machine.Reachable (fun _ _ => True) World.initial state := Machine.Path.of_runFrom actions executed
  have concerned : JobConcerns job row.payment_id row.correlation_id := (arguments_asked reached running).delivers row rfl
  cases job with
  | process command => exact absurd (Machine.started_of_running executed running) (consumed run command)
  | consume settings message =>
      rcases concerned with ⟨event_type, body⟩
      have kept := (creation_verified deployment).invariant (creation_reachable reached)
      exact kept.correlated (consumed_published reached running) body
  | _ => exact concerned.elim

theorem correlated_along {actions : List (service deployment).Action} {state : (service deployment).State}
    (executed : Machine.runFrom (Machine.fresh World.initial) actions = some state) (consumed : Consumed actions) :
    Correlated state.shared := by
  refine @Machine.runFrom_induction signature (service deployment) _ (fun actions state =>
    Consumed actions -> Correlated state.shared) (Machine.fresh World.initial) (fun _ id row carried => ?_) ?_ actions
    state executed consumed
  · cases carried with
    | committed same => cases same
    | draft same => cases same
  intro actions state action next before inductionHypothesis taken consumed
  have reached : Machine.Reachable (fun _ _ => True) World.initial state := Machine.Path.of_runFrom actions before
  have known := inductionHypothesis consumed.earlier
  have evolves : PaymentsEvolve state.shared next.shared :=
    (payment_verified deployment).evolves reached (.step action .refl taken trivial)
  rcases Machine.step_cases taken with
    ⟨run, job, shared, absent, started, rfl⟩ | ⟨run, job, op, rest, choice, outcome, running, ran, rfl⟩ |
    ⟨run, job, op, rest, running, rfl⟩ | ⟨event, shared, happened, rfl⟩
  · refine known.of_earlier evolves (fun id row carried => ⟨row, ?_, rfl, rfl⟩)
    rcases start_cases started with rfl | ⟨_, _, _, _, rfl⟩ <;> exact carried
  · refine known.executed evolves (service_executed ran) (fun row adds => ?_)
    subst adds
    rcases added_correlated before consumed.earlier running with ⟨payment, found, told⟩
    rcases evolves.grows row.payment_id payment found with ⟨later, found', grows⟩
    exact ⟨later, found', (correlation_id_of_origin grows.origin).trans told⟩
  · refine known.of_earlier evolves (fun id row carried => ⟨row, ?_, rfl, rfl⟩)
    have carried : ((World.crash run state.shared).cell .webhook_deliveries id).Carries row := carried
    rw [World.crash_cell] at carried
    exact Cell.carries_of_rollback carried
  · refine known.of_earlier evolves (fun id row carried => ⟨row, ?_, rfl, rfl⟩)
    have same := (World.happen_occurred happened).cell .webhook_deliveries id
    rw [← same]
    exact carried

end Properties
end Payments
