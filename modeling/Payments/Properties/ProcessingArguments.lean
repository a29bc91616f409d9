import Payments.Concurrency.Asking
import Payments.Properties.PaymentConsumers

namespace Payments
namespace Properties

open Concurrency Domain Infrastructure Application Prog UnitOfWork Payments.System

/-!
# What the processing of a payment writes

The handler carries three values to its last statements: the time it has read
after the answer of the gateway, the payment it was told to process, and the
correlation of its command.  The first becomes the time of the transition, and
the other two go into the delivery.
-/

variable {deployment : Deployment} {world after : World} {run : RunId} {op : Op} {X : Type}
  {concerns : UUID -> Option String -> Prop}

/-- A transition is given a time that the clock of the run has shown, and a
delivery is added for a payment and a correlation that concern the run. -/
structure Arguments (concerns : UUID -> Option String -> Prop) (run : RunId) (op : Op) (world : World) : Prop where
  timed : forall id version status target time,
    op = .update .payments (.payment_transition id version status target (some time)) -> .clock_read time ∈ world.own run
  delivers : forall row : WebhookDeliveryModel, op = .add .webhook_deliveries row ->
    concerns row.payment_id row.correlation_id

/-- Operations with none of these arguments. -/
structure Incidental (op : Op) : Prop where
  untimed : forall id version status target time,
    op ≠ .update .payments (.payment_transition id version status target (some time))
  undelivering : forall row, op ≠ .add .webhook_deliveries row

theorem Incidental.arguments (incidental : Incidental op) (world : World) : Arguments concerns run op world :=
  ⟨fun _ _ _ _ _ same => absurd same (incidental.untimed _ _ _ _ _), fun _ same => absurd same (incidental.undelivering _)⟩

/-- Assertions of the payment discipline about the arguments. -/
abbrev Argued (deployment : Deployment) (concerns : UUID -> Option String -> Prop) (run : RunId) :=
  ((payment_discipline deployment).asking (Arguments concerns)).Assertion run

/-- Nothing is known. -/
def unknown : Argued deployment concerns run := .fact True

/-- The clock of the run has shown this time. -/
def shown (time : Datetime) : Argued deployment concerns run :=
  (knowing run (fun world => .clock_read time ∈ world.own run)
    (fun _ _ untouched _ known => untouched.own ▸ known) : (payment_discipline deployment).Assertion run).asking

theorem incidental_triple {program : Program X} (calls : program.OnlyCalls Incidental) :
    ((payment_discipline deployment).asking (Arguments concerns)).Triple unknown program (fun _ => unknown)
      (fun _ => (unknown : Argued deployment concerns run)) :=
  Discipline.Triple.unconcerned (fun _ incidental state => incidental.arguments state) calls

theorem read_triple : ((payment_discipline deployment).asking (Arguments concerns)).Triple unknown (await .now)
    (fun time => shown time) (fun _ => (unknown : Argued deployment concerns run)) := by
  refine Discipline.Triple.perform (fun world _ _ => Incidental.arguments ⟨by simp, by simp⟩ world)
    (fun state _ _ time _ _ ran _ _ => ?_) (fun _ _ _ _ _ _ _ _ _ => trivial)
  cases service_executed ran with
  | now reading =>
      have own : (World.note (.run run) (.clock_read time) state).own run = .clock_read time :: state.own run :=
        World.own_note_self (.clock_read time)
      change .clock_read time ∈ (World.note (.run run) (.clock_read time) state).own run
      rw [own]
      exact List.mem_cons_self

/-- The transition that ends a payment is given the time that was read before it. -/
theorem timed_triple {id : UUID} {version : Nat} {status target : PaymentStatus} {time : Datetime} :
    ((payment_discipline deployment).asking (Arguments concerns)).Triple (shown time)
      (await (.update .payments (.payment_transition id version status target (some time)))) (fun _ => unknown)
      (fun _ => (unknown : Argued deployment concerns run)) := by
  refine Discipline.Triple.perform (fun world _ known => ⟨?_, by simp⟩) (fun _ _ _ _ _ _ _ _ _ => trivial)
    (fun _ _ _ _ _ _ _ _ _ => trivial)
  intro _ _ _ _ _ same
  cases same
  exact known

/-! ## The handler -/

theorem incidental_scope (ends : ScopeCalls op) : Incidental op := by
  cases ends <;> exact ⟨by simp, by simp⟩

/-- The payment that is loaded is the one that was asked for. -/
theorem loading_triple (payment_id : UUID) :
    ((payment_discipline deployment).asking (Arguments concerns)).Triple unknown
      (SqlAlchemyPaymentRepository.get payment_id)
      (fun found => .fact (forall payment, found = some payment -> payment.id = payment_id))
      (fun _ => (unknown : Argued deployment concerns run)) := by
  have selected : ((payment_discipline deployment).asking (Arguments concerns)).Triple unknown
      (await (.select .payments (.payment_by_id payment_id)))
      (fun (rows : List PaymentModel) => .fact (forall row, row ∈ rows -> row.id = payment_id))
      (fun _ => (unknown : Argued deployment concerns run)) := by
    refine Discipline.Triple.perform (fun world _ _ => Incidental.arguments ⟨by simp, by simp⟩ world)
      (fun state _ _ rows _ _ ran _ _ => ?_) (fun _ _ _ _ _ _ _ _ _ => trivial)
    cases service_executed ran with
    | selected name query accepting =>
        intro row listed
        rw [List.mem_insertionSort] at listed
        rcases Table.mem_select.mp listed with ⟨key, _, matched⟩
        exact of_decide_eq_true matched
  refine Discipline.Triple.bind selected (fun rows => ?_)
  cases first : rows.head? with
  | none => exact Discipline.Triple.ret (fun _ _ _ payment impossible => by cases impossible)
  | some row =>
      have listed : row ∈ rows := List.mem_of_mem_head? first
      refine Discipline.Triple.ofExcept_bind (fun _ _ _ _ _ => trivial) (fun payment load => ?_)
      refine Discipline.Triple.ret (fun _ _ known found same => ?_)
      cases same
      exact (loaded_from load).id.trans (known row listed)

/-- Either end of the payment is written with the time of the reading. -/
theorem ended_arguments {id : UUID} {version : Nat} {status target : PaymentStatus} {time : Datetime}
    (attempt : PaymentAttempt) :
    ((payment_discipline deployment).asking (Arguments concerns)).Triple (shown time)
      (do
        let claimed ← (do
          let rows : List PaymentModel ←
            await (.update .payments (.payment_transition id version status target (some time)))
          return rows.length == 1 : Program Bool)
        return (attempt, claimed) : Program (PaymentAttempt × Bool)) (fun _ => unknown)
      (fun _ => (unknown : Argued deployment concerns run)) := by
  have claimed : ((payment_discipline deployment).asking (Arguments concerns)).Triple (shown time)
      (do
        let rows : List PaymentModel ←
          await (.update .payments (.payment_transition id version status target (some time)))
        return rows.length == 1 : Program Bool) (fun _ => unknown)
      (fun _ => (unknown : Argued deployment concerns run)) :=
    Discipline.Triple.bind timed_triple (fun _ => Discipline.Triple.ret (fun _ _ _ => trivial))
  exact Discipline.Triple.bind claimed (fun _ => Discipline.Triple.ret (fun _ _ _ => trivial))

theorem settle_arguments (payment : Payment) (result : GatewayResult) (finished_at : Datetime) :
    ((payment_discipline deployment).asking (Arguments concerns)).Triple (shown finished_at)
      (ProcessPaymentHandler.settle payment result finished_at) (fun _ => unknown)
      (fun _ => (unknown : Argued deployment concerns run)) := by
  rw [ProcessPaymentHandler.settle]
  split
  · refine Discipline.Triple.ofExcept_bind (fun _ _ _ _ _ => trivial) (fun ended _ => ?_)
    refine Discipline.Triple.ofExcept_bind (fun _ _ _ _ _ => trivial) (fun marked _ => ?_)
    exact ended_arguments ended.2
  · refine Discipline.Triple.ofExcept_bind (fun _ _ _ _ _ => trivial) (fun ended _ => ?_)
    refine Discipline.Triple.ofExcept_bind (fun _ _ _ _ _ => trivial) (fun marked _ => ?_)
    exact ended_arguments ended.2

/-- A delivery is added for a payment and a correlation that concern the run. -/
theorem delivering_triple {row : WebhookDeliveryModel} (concerned : concerns row.payment_id row.correlation_id) :
    ((payment_discipline deployment).asking (Arguments concerns)).Triple unknown
      (await (.add .webhook_deliveries row)) (fun _ => unknown)
      (fun _ => (unknown : Argued deployment concerns run)) := by
  refine Discipline.Triple.perform (fun world _ _ => ⟨by simp, ?_⟩) (fun _ _ _ _ _ _ _ _ _ => trivial)
    (fun _ _ _ _ _ _ _ _ _ => trivial)
  intro added same
  cases same
  exact concerned

theorem finalize_arguments {command : ProcessPaymentCommand} {payment : Payment} (result : GatewayResult)
    (concerned : concerns payment.id command.correlation_id) :
    ((payment_discipline deployment).asking (Arguments concerns)).Triple unknown
      (ProcessPaymentHandler.finalize command payment result) (fun _ => unknown)
      (fun _ => (unknown : Argued deployment concerns run)) := by
  refine Discipline.Triple.bind read_triple (fun finished_at => ?_)
  refine Discipline.Triple.bind (settle_arguments payment result finished_at) (fun settled => ?_)
  dsimp only
  split
  · exact Discipline.Triple.raise (fun _ _ _ => trivial)
  · refine Discipline.Triple.bind (incidental_triple (OnlyCalls.bind (OnlyCalls.perform ⟨by simp, by simp⟩)
      (fun _ => OnlyCalls.ret _))) (fun _ => ?_)
    refine Discipline.Triple.bind (incidental_triple (OnlyCalls.perform ⟨by simp, by simp⟩)) (fun delivery_id => ?_)
    refine Discipline.Triple.bind (delivering_triple concerned) (fun _ => ?_)
    exact Discipline.Triple.ret (fun _ _ _ => trivial)

theorem charge_arguments {command : ProcessPaymentCommand} {payment : Payment} (started_at : Datetime)
    (concerned : concerns payment.id command.correlation_id) :
    ((payment_discipline deployment).asking (Arguments concerns)).Triple unknown
      (ProcessPaymentHandler.charge command payment started_at) (fun _ => unknown)
      (fun _ => (unknown : Argued deployment concerns run)) := by
  refine Discipline.Triple.bind (incidental_triple (OnlyCalls.bind (OnlyCalls.perform ⟨by simp, by simp⟩)
    (fun _ => OnlyCalls.ret _))) (fun attempts => ?_)
  refine Discipline.Triple.bind (incidental_triple (OnlyCalls.perform ⟨by simp, by simp⟩)) (fun attempt_id => ?_)
  refine Discipline.Triple.ofExcept_bind (fun _ _ _ _ _ => trivial) (fun begun begins => ?_)
  refine Discipline.Triple.bind (incidental_triple (OnlyCalls.perform ⟨by simp, by simp⟩)) (fun _ => ?_)
  refine Discipline.Triple.bind (incidental_triple (OnlyCalls.perform ⟨by simp, by simp⟩)) (fun _ => ?_)
  refine Discipline.Triple.bind (incidental_triple (OnlyCalls.perform ⟨by simp, by simp⟩)) (fun result => ?_)
  have same : begun.1.id = payment.id := (begun_with begins).id
  exact finalize_arguments result (same ▸ concerned)

theorem claim_arguments {command : ProcessPaymentCommand} {payment : Payment}
    (concerned : concerns payment.id command.correlation_id) :
    ((payment_discipline deployment).asking (Arguments concerns)).Triple unknown
      (ProcessPaymentHandler.claim command payment) (fun _ => unknown)
      (fun _ => (unknown : Argued deployment concerns run)) := by
  refine Discipline.Triple.bind (incidental_triple (OnlyCalls.perform ⟨by simp, by simp⟩)) (fun started_at => ?_)
  refine Discipline.Triple.ofExcept_bind (fun _ _ _ _ _ => trivial) (fun begun marks => ?_)
  refine Discipline.Triple.bind (incidental_triple (OnlyCalls.bind (OnlyCalls.perform ⟨by simp, by simp⟩)
    (fun _ => OnlyCalls.ret _))) (fun claimed => ?_)
  split
  · exact Discipline.Triple.ret (fun _ _ _ => trivial)
  · have same : begun.id = payment.id := (marked_processing marks).id
    exact charge_arguments started_at (same ▸ concerned)

theorem process_arguments {command : ProcessPaymentCommand}
    (concerned : concerns command.payment_id command.correlation_id) :
    ((payment_discipline deployment).asking (Arguments concerns)).Triple unknown
      (ProcessPaymentHandler.handle command) (fun _ => unknown)
      (fun _ => (unknown : Argued deployment concerns run)) := by
  have ending : forall {op : Op}, ScopeCalls op -> ((payment_discipline deployment).asking (Arguments concerns)).Triple
      unknown (await op) (fun _ => unknown) (fun _ => (unknown : Argued deployment concerns run)) :=
    fun ends => incidental_triple (OnlyCalls.perform (incidental_scope ends))
  have loaded : forall payment : Payment, ((payment_discipline deployment).asking (Arguments concerns)).Triple
      (.fact (forall found, some payment = some found -> found.id = command.payment_id))
      (if payment.status.terminal then return ⟨.ALREADY_TERMINAL, none⟩
        else if payment.status ≠ .PENDING then return ⟨.NOT_PENDING, none⟩
        else ProcessPaymentHandler.claim command payment : Program PaymentProcessingResult) (fun _ => unknown)
      (fun _ => (unknown : Argued deployment concerns run)) := by
    intro payment
    split
    · exact Discipline.Triple.ret (fun _ _ _ => trivial)
    · split
      · exact Discipline.Triple.ret (fun _ _ _ => trivial)
      · intro state kept known
        have same : payment.id = command.payment_id := known payment rfl
        exact claim_arguments (same ▸ concerned) state kept trivial
  refine transactional_triple ?_ (fun _ => ending .commit) (fun _ => ending .rollback) (fun _ => ending .close)
    (fun _ => ending .close)
  refine Discipline.Triple.bind (loading_triple command.payment_id) (fun found => ?_)
  cases found with
  | none => exact Discipline.Triple.ret (fun _ _ _ => trivial)
  | some payment => exact loaded payment

/-! ## Every job -/

/-- The payments, and their correlations, that a job is about. -/
def JobConcerns : Job -> UUID -> Option String -> Prop
  | .process command => fun payment_id correlation_id =>
      payment_id = command.payment_id ∧ correlation_id = command.correlation_id
  | .consume _ message => fun payment_id correlation_id => Exists fun event_type =>
      message.body = .object event_type (.uuid payment_id) correlation_id
  | _ => fun _ _ => False

theorem consume_arguments (settings : Settings) (message : Message) :
    ((payment_discipline deployment).asking (Arguments (JobConcerns (.consume settings message)))).Triple unknown
      (PaymentConsumerHandler.handle settings message) (fun _ => unknown)
      (fun _ => (unknown : Argued deployment (JobConcerns (.consume settings message)) run)) := by
  have dlq : ((payment_discipline deployment).asking (Arguments (JobConcerns (.consume settings message)))).Triple unknown
      (PaymentConsumerHandler.send_to_dlq message) (fun _ => unknown)
      (fun _ => (unknown : Argued deployment (JobConcerns (.consume settings message)) run)) :=
    incidental_triple (OnlyCalls.perform ⟨by simp, by simp⟩)
  have routed : ((payment_discipline deployment).asking (Arguments (JobConcerns (.consume settings message)))).Triple
      unknown (PaymentConsumerHandler.route settings message) (fun _ => unknown)
      (fun _ => (unknown : Argued deployment (JobConcerns (.consume settings message)) run)) := by
    rw [PaymentConsumerHandler.route]
    split
    · exact dlq
    · exact dlq
    · next event_type aggregate_id correlation_id body =>
        split
        · exact Discipline.Triple.ret (fun _ _ _ => trivial)
        · split
          · exact dlq
          · cases aggregate_id with
            | missing => exact Discipline.Triple.raise (fun _ _ _ => trivial)
            | malformed => exact Discipline.Triple.raise (fun _ _ _ => trivial)
            | uuid key =>
                have concerned : JobConcerns (.consume settings message) key correlation_id := ⟨event_type, body⟩
                exact Discipline.Triple.bind (process_arguments concerned)
                  (fun _ => Discipline.Triple.ret (fun _ _ _ => trivial))
  have returned : ((payment_discipline deployment).asking (Arguments (JobConcerns (.consume settings message)))).Triple
      unknown (do PaymentConsumerHandler.route settings message; return true : Program Bool) (fun _ => unknown)
      (fun _ => (unknown : Argued deployment (JobConcerns (.consume settings message)) run)) :=
    Discipline.Triple.bind routed (fun _ => Discipline.Triple.ret (fun _ _ known => known))
  refine Discipline.Triple.bind (Discipline.Triple.tryCatch returned (fun raised => ?_)) (fun ended => ?_)
  · cases raised with
    | cancelled => exact Discipline.Triple.raise (fun _ _ known => known)
    | _ => exact Discipline.Triple.ret (fun _ _ known => known)
  · split
    · exact incidental_triple (OnlyCalls.perform ⟨by simp, by simp⟩)
    · exact incidental_triple (OnlyCalls.perform ⟨by simp, by simp⟩)

theorem incidental_create (calls : CreateCalls op) : Incidental op := by
  cases calls with
  | scope ends => exact incidental_scope ends
  | _ => exact ⟨by simp, by simp⟩

theorem incidental_get (calls : GetCalls op) : Incidental op := by
  cases calls with
  | scope ends => exact incidental_scope ends
  | _ => exact ⟨by simp, by simp⟩

theorem incidental_deliver (calls : DeliverCalls op) : Incidental op := by
  cases calls with
  | scope ends => exact incidental_scope ends
  | _ => exact ⟨by simp, by simp⟩

theorem incidental_outbox (calls : OutboxCalls op) : Incidental op := by
  cases calls with
  | scope ends => exact incidental_scope ends
  | _ => exact ⟨by simp, by simp⟩

theorem job_arguments (job : Job) :
    ((payment_discipline deployment).asking (Arguments (JobConcerns job))).Triple unknown (program deployment run job)
      (fun _ => unknown) (fun _ => (unknown : Argued deployment (JobConcerns job) run)) := by
  cases job with
  | create command => exact incidental_triple ((create_calls command).mono (fun _ => incidental_create))
  | process command =>
      have concerned : JobConcerns (.process command) command.payment_id command.correlation_id := ⟨rfl, rfl⟩
      exact process_arguments concerned
  | get query => exact incidental_triple ((get_calls query).mono (fun _ => incidental_get))
  | deliver batch_size concurrency =>
      exact incidental_triple ((deliver_calls _ _ _).mono (fun _ => incidental_deliver))
  | outbox settings cycles => exact incidental_triple ((outbox_calls _ _ _ _).mono (fun _ => incidental_outbox))
  | consume settings message => exact consume_arguments settings message

/-- What a run is about to execute has the arguments of its job. -/
theorem arguments_asked {state : (service deployment).State} {job : Job}
    {next : Except Error op.Answer -> Program job.Result}
    (reached : Machine.Reachable (fun _ _ => True) World.initial state)
    (running : state.phase run = .running job (.call op next)) : Arguments (JobConcerns job) run op state.shared := by
  exact @Discipline.Verified.asked _ (service deployment) _ (Arguments (JobConcerns job)) run _ _
    (payment_verified deployment) job (fun _ => unknown) (fun _ => unknown)
    (fun _ after _ _ _ kept' _ => job_arguments job after kept' trivial) state reached op next running

end Properties
end Payments
