import Payments.Concurrency.Asking
import Payments.Concurrency.Schedules
import Payments.Properties.PaymentConsumers

namespace Payments
namespace Properties

open Concurrency Domain Infrastructure Application Prog UnitOfWork Payments.System

/-!
# The payments of a batch of webhooks

A delivery is committed together with the end of its payment, so whoever claims
a committed delivery finds a payment that has ended.  Such a payment does not
change any more; hence what a batch has loaded before it sends is still what
the payment says when it is sent.
-/

variable {deployment : Deployment} {world after : World} {run : RunId} {op : Op} {key : UUID} {X : Type}

/-! ## Ended payments -/

/-- The payment has ended. -/
def HasEnded (key : UUID) (world : World) : Prop :=
  Exists fun row => (world.cell .payments key).committed = some row ∧ Final row

/-- The payment has ended, and its row is that of the aggregate. -/
def EndedAs (key : UUID) (payment : Payment) (world : World) : Prop :=
  Exists fun row => (world.cell .payments key).committed = some row ∧ Final row ∧ row.to_domain = .ok payment

theorem final_stays {row : PaymentModel} (evolves : PaymentsEvolve world after)
    (found : (world.cell .payments key).committed = some row) (final : Final row) :
    (after.cell .payments key).committed = some row := by
  rcases evolves.grows key row found with ⟨later, found', grows⟩
  rw [found', grows.of_final final]

theorem HasEnded.stable (ended : HasEnded key world) (evolves : PaymentsEvolve world after) : HasEnded key after := by
  rcases ended with ⟨row, found, final⟩
  exact ⟨row, final_stays evolves found final, final⟩

theorem EndedAs.stable {payment : Payment} (ended : EndedAs key payment world) (evolves : PaymentsEvolve world after) :
    EndedAs key payment after := by
  rcases ended with ⟨row, found, final, load⟩
  exact ⟨row, final_stays evolves found final, final, load⟩

/-- The payment of a committed delivery has ended. -/
theorem PaymentsKept.delivery_ended (kept : PaymentsKept world) {id : UUID} {delivery : WebhookDeliveryModel}
    (committed : (world.cell .webhook_deliveries id).committed = some delivery) : HasEnded delivery.payment_id world := by
  rcases kept.delivered id delivery committed with ⟨row, found⟩
  cases kept.shaped delivery.payment_id row found with
  | pending fresh untried => exact absurd rfl (untried.deliveries id delivery committed)
  | ended final tried => exact ⟨row, found, final⟩

/-! ## The question -/

/-- What a batch posts is built from the ended payments of its deliveries. -/
def Posts (op : Op) (world : World) : Prop :=
  forall requests concurrency, op = .send_all requests concurrency -> forall request, request ∈ requests ->
    forall posted, request.2 = some posted -> Exists fun payment => EndedAs request.1.payment_id payment world ∧
      posted = webhook_request payment request.1

theorem posts_of_ne (unsent : forall requests concurrency, op ≠ .send_all requests concurrency) (world : World) :
    Posts op world :=
  fun requests concurrency same => absurd same (unsent requests concurrency)

/-- The payment discipline with this question. -/
abbrev posting_discipline (deployment : Deployment) : Discipline (service deployment) :=
  (payment_discipline deployment).asking (fun _ => Posts)

abbrev Posting (deployment : Deployment) (run : RunId) := (posting_discipline deployment).Assertion run

/-- The payments of the deliveries have ended, and the run holds none. -/
structure BatchEnded (run : RunId) (deliveries : List WebhookDelivery) (world : World) : Prop where
  away : Away .payments run world
  ended : forall delivery, delivery ∈ deliveries -> HasEnded delivery.payment_id world

theorem BatchEnded.stable {deliveries : List WebhookDelivery} (batch : BatchEnded run deliveries world)
    (untouched : World.Untouched run world after) (evolves : PaymentsEvolve world after) :
    BatchEnded run deliveries after :=
  ⟨batch.away.stable untouched, fun delivery listed => (batch.ended delivery listed).stable evolves⟩

/-- Each payment that was found is that of an ended row. -/
def LoadedEnded (payments : DeliverDueWebhooksHandler.LoadedPayments) (world : World) : Prop :=
  forall id payment, (id, some payment) ∈ payments -> EndedAs id payment world

def batch_of (run : RunId) (deliveries : List WebhookDelivery)
    (payments : DeliverDueWebhooksHandler.LoadedPayments) : Posting deployment run :=
  (knowing run (fun world => BatchEnded run deliveries world ∧ LoadedEnded payments world)
    (fun _ _ untouched evolves known => ⟨known.1.stable untouched evolves,
      fun id payment listed => (known.2 id payment listed).stable evolves⟩) :
    (payment_discipline deployment).Assertion run).asking

/-- Nothing is known. -/
def whatever : Posting deployment run := .fact True

theorem unposted_triple {program : Program X}
    (calls : program.OnlyCalls (fun op : Op => forall requests concurrency, op ≠ .send_all requests concurrency))
    {pre : Posting deployment run} :
    (posting_discipline deployment).Triple pre program (fun _ => whatever)
      (fun _ => (whatever : Posting deployment run)) :=
  Discipline.Triple.unconcerned (fun _ unsent world => posts_of_ne unsent world) calls

/-! ## The handler -/

theorem opened_triple : (posting_discipline deployment).Triple
    (clear run : (payment_discipline deployment).Assertion run).asking (await .now)
    (fun _ => (clear run : (payment_discipline deployment).Assertion run).asking)
    (fun _ => (whatever : Posting deployment run)) := by
  refine Discipline.Triple.perform (fun world _ _ => posts_of_ne (by simp) world)
    (fun world _ after _ _ known ran _ _ => ?_) (fun _ _ _ _ _ _ _ _ _ => trivial)
  cases service_executed ran with
  | now => exact known

/-- The claimed deliveries are committed ones. -/
theorem claimed_triple (batch_size : Int) (now : Datetime) : (posting_discipline deployment).Triple
    (clear run : (payment_discipline deployment).Assertion run).asking
    (SqlAlchemyWebhookDeliveryRepository.claim_due batch_size now) (fun deliveries => batch_of run deliveries [])
    (fun _ => (whatever : Posting deployment run)) := by
  have selected : (posting_discipline deployment).Triple
      (clear run : (payment_discipline deployment).Assertion run).asking
      (await (.select_for_update .webhook_deliveries (.due_deliveries now) batch_size))
      (fun (rows : List WebhookDeliveryModel) => batch_of run (rows.map WebhookDeliveryModel.to_domain) [])
      (fun _ => (whatever : Posting deployment run)) := by
    refine Discipline.Triple.perform (fun world _ _ => posts_of_ne (by simp) world)
      (fun world _ after rows kept known ran _ evolves => ?_) (fun _ _ _ _ _ _ _ _ _ => trivial)
    have kept : PaymentsKept world := kept
    have known : Clear run world := known
    have evolves : PaymentsEvolve world after := evolves
    cases service_executed ran with
    | locked name query limit accepting =>
        refine ⟨⟨fun id held => known .payments id ?_, fun delivery listed => ?_⟩, fun _ _ listed => by cases listed⟩
        · rwa [World.cell_set_table_of_ne _ (by simp) id] at held
        · rcases List.mem_map.mp listed with ⟨row, member, rfl⟩
          rcases List.mem_map.mp member with ⟨⟨id, found⟩, claimable, same⟩
          have same : found = row := same
          subst same
          have seen : (world.cell .webhook_deliveries id).visible run = some found := (Table.mem_claimable claimable).1
          rw [Cell.visible_of_not_heldBy (known .webhook_deliveries id)] at seen
          exact (kept.delivery_ended seen).stable evolves
  exact Discipline.Triple.bind selected (fun _ => Discipline.Triple.ret (fun _ _ known => known))

/-- A payment that is loaded for a delivery of the batch has ended. -/
theorem got_triple {deliveries : List WebhookDelivery} {payments : DeliverDueWebhooksHandler.LoadedPayments}
    {delivery : WebhookDelivery} (listed : delivery ∈ deliveries) : (posting_discipline deployment).Triple
    (batch_of run deliveries payments) (SqlAlchemyPaymentRepository.get delivery.payment_id)
    (fun found => batch_of run deliveries (payments ++ [(delivery.payment_id, found)]))
    (fun _ => (whatever : Posting deployment run)) := by
  have selected : (posting_discipline deployment).Triple (batch_of run deliveries payments)
      (await (.select .payments (.payment_by_id delivery.payment_id)))
      (fun (rows : List PaymentModel) => (batch_of run deliveries payments).both
        ((knowing run (fun world => forall row, row ∈ rows ->
          (world.cell .payments delivery.payment_id).committed = some row ∧ Final row)
          (fun _ _ _ evolves known row member => ⟨final_stays evolves (known row member).1 (known row member).2,
            (known row member).2⟩) : (payment_discipline deployment).Assertion run).asking))
      (fun _ => (whatever : Posting deployment run)) := by
    refine Discipline.Triple.perform (fun world _ _ => posts_of_ne (by simp) world)
      (fun world _ after rows kept known ran _ _ => ?_) (fun _ _ _ _ _ _ _ _ _ => trivial)
    have kept : PaymentsKept world := kept
    cases service_executed ran with
    | selected name query accepting =>
        refine ⟨known, fun row member => ?_⟩
        have named : forall row, (Query.payment_by_id delivery.payment_id).condition row = true ->
            Row.id row = delivery.payment_id := fun row matched => of_decide_eq_true matched
        have found := ((selected_payment kept.keyed known.1.away named).mp member).1
        rcases known.1.ended delivery listed with ⟨ended, found', final⟩
        rw [found] at found'
        cases found'
        exact ⟨found, final⟩
  refine Discipline.Triple.bind selected (fun rows => ?_)
  cases first : rows.head? with
  | none =>
      refine Discipline.Triple.ret (fun world _ known => ⟨known.1.1, fun id payment member => ?_⟩)
      rcases List.mem_append.mp member with before | new
      · exact known.1.2 id payment before
      · cases List.mem_singleton.mp new
  | some row =>
      refine Discipline.Triple.ofExcept_bind (fun _ _ _ _ _ => trivial) (fun loaded load => ?_)
      refine Discipline.Triple.ret (fun world _ known => ⟨known.1.1, fun id payment member => ?_⟩)
      rcases List.mem_append.mp member with before | new
      · exact known.1.2 id payment before
      · cases List.mem_singleton.mp new
        rcases known.2 row (List.mem_of_mem_head? first) with ⟨found, final⟩
        exact ⟨row, found, final, load⟩

theorem loaded_triple {deliveries : List WebhookDelivery} (rest : List WebhookDelivery)
    (payments : DeliverDueWebhooksHandler.LoadedPayments)
    (listed : forall delivery, delivery ∈ rest -> delivery ∈ deliveries) :
    (posting_discipline deployment).Triple (batch_of run deliveries payments)
      (DeliverDueWebhooksHandler.load_payments rest payments) (fun payments => batch_of run deliveries payments)
      (fun _ => (whatever : Posting deployment run)) := by
  induction rest generalizing payments with
  | nil => exact Discipline.Triple.ret (fun _ _ known => known)
  | cons delivery rest inductionHypothesis =>
      have later : forall delivery, delivery ∈ rest -> delivery ∈ deliveries :=
        fun delivery member => listed delivery (List.mem_cons_of_mem _ member)
      rw [DeliverDueWebhooksHandler.load_payments]
      split
      · exact inductionHypothesis payments later
      · exact Discipline.Triple.bind (got_triple (listed delivery List.mem_cons_self))
          (fun found => inductionHypothesis _ later)

theorem requested_of_loaded {payments : DeliverDueWebhooksHandler.LoadedPayments} (loaded : LoadedEnded payments world)
    {delivery : WebhookDelivery} {posted : WebhookRequest}
    (requested : DeliverDueWebhooksHandler.request payments delivery = some posted) :
    Exists fun payment => EndedAs delivery.payment_id payment world ∧ posted = webhook_request payment delivery := by
  rcases Option.map_eq_some_iff.mp requested with ⟨payment, found, rfl⟩
  rcases Option.join_eq_some_iff.mp found with found
  have member : (delivery.payment_id, some payment) ∈ payments := by
    rcases List.lookup_eq_some_iff.mp found with ⟨before, after, rfl, _⟩
    exact List.mem_append_right before List.mem_cons_self
  exact ⟨payment, loaded _ payment member, rfl⟩

theorem posted_triple (deliveries : List WebhookDelivery) (payments : DeliverDueWebhooksHandler.LoadedPayments)
    (concurrency : Int) : (posting_discipline deployment).Triple (batch_of run deliveries payments)
    (DeliverDueWebhooksHandler.send_all deliveries payments concurrency) (fun _ => whatever)
    (fun _ => (whatever : Posting deployment run)) := by
  have sends : (posting_discipline deployment).Triple (batch_of run deliveries payments)
      (await (.send_all (deliveries.map (fun delivery =>
        (delivery, DeliverDueWebhooksHandler.request payments delivery))) concurrency)) (fun _ => whatever)
      (fun _ => (whatever : Posting deployment run)) := by
    refine Discipline.Triple.perform (fun world _ known => ?_) (fun _ _ _ _ _ _ _ _ _ => trivial)
      (fun _ _ _ _ _ _ _ _ _ => trivial)
    intro requests concurrency' same request listed posted requested
    cases same
    rcases List.mem_map.mp listed with ⟨delivery, member, rfl⟩
    exact requested_of_loaded known.2 requested
  exact Discipline.Triple.bind sends (fun _ => unposted_triple (OnlyCalls.perform (by simp)))

/-- Operations that send nothing. -/
theorem unsent_record_all (retry_policy : RetryPolicy) (results : List (WebhookDelivery × Option WebhookSendResult)) :
    (DeliverDueWebhooksHandler.record_all retry_policy results).OnlyCalls
      (fun op : Op => forall requests concurrency, op ≠ .send_all requests concurrency) := by
  induction results with
  | nil => exact OnlyCalls.ret _
  | cons result rest inductionHypothesis =>
      rcases result with ⟨delivery, _ | result⟩
      · exact inductionHypothesis
      · refine OnlyCalls.bind (OnlyCalls.bind (OnlyCalls.perform (by simp)) (fun now => ?_))
          (fun _ => OnlyCalls.bind inductionHypothesis (fun _ => OnlyCalls.ret _))
        refine OnlyCalls.bind (OnlyCalls.ofExcept _) (fun recorded => OnlyCalls.bind ?_ (fun _ => OnlyCalls.ret _))
        exact OnlyCalls.bind (OnlyCalls.perform (by simp)) (fun _ => OnlyCalls.ret _)

theorem batch_posts (batch_size concurrency : Int) (retry_policy : RetryPolicy) :
    (posting_discipline deployment).Triple (clear run : (payment_discipline deployment).Assertion run).asking
      (DeliverDueWebhooksHandler.handle batch_size retry_policy concurrency) (fun _ => whatever)
      (fun _ => (whatever : Posting deployment run)) := by
  have ending : forall {op : Op}, ScopeCalls op -> (posting_discipline deployment).Triple
      (whatever : Posting deployment run) (await op) (fun _ => whatever) (fun _ => whatever) := by
    intro op ends
    refine unposted_triple (OnlyCalls.perform ?_)
    cases ends <;> simp
  refine transactional_triple ?_ (fun _ => ending .commit) (fun _ => ending .rollback) (fun _ => ending .close)
    (fun _ => ending .close)
  refine Discipline.Triple.bind opened_triple (fun now => ?_)
  refine Discipline.Triple.bind (claimed_triple batch_size now) (fun deliveries => ?_)
  split
  · exact Discipline.Triple.ret (fun _ _ _ => trivial)
  · refine Discipline.Triple.bind (loaded_triple deliveries [] (fun _ listed => listed)) (fun payments => ?_)
    refine Discipline.Triple.bind (posted_triple deliveries payments concurrency) (fun results => ?_)
    exact unposted_triple (OnlyCalls.bind (unsent_record_all retry_policy results) (fun _ => OnlyCalls.ret _))

/-- Only a batch of webhooks sends anything. -/
theorem unsent_of_calls {job : Job} (calls : JobCalls job op)
    (other : forall batch_size concurrency, job ≠ .deliver batch_size concurrency)
    (requests : List (WebhookDelivery × Option WebhookRequest)) (concurrency : Int) :
    op ≠ .send_all requests concurrency := by
  have closing : forall {op : Op}, ScopeCalls op -> op ≠ .send_all requests concurrency := by
    intro op ends
    cases ends <;> simp
  have processed : forall {op : Op}, ProcessCalls op -> op ≠ .send_all requests concurrency := by
    intro op calls
    cases calls with
    | scope ends => exact closing ends
    | _ => simp
  cases job with
  | create command =>
      cases calls with
      | scope ends => exact closing ends
      | _ => simp
  | process command => exact processed calls
  | get query =>
      cases calls with
      | scope ends => exact closing ends
      | _ => simp
  | deliver batch_size concurrency => exact absurd rfl (other batch_size concurrency)
  | outbox settings cycles =>
      cases calls with
      | scope ends => exact closing ends
      | _ => simp
  | consume settings message =>
      cases calls with
      | process calls => exact processed calls
      | _ => simp

/-- Whatever a run of the service posts, it posts for an ended payment. -/
theorem posts_asked {state : (service deployment).State} {job : Job}
    {next : Except Error op.Answer -> Program job.Result}
    (reached : Machine.Reachable (fun _ _ => True) World.initial state)
    (running : state.phase run = .running job (.call op next)) : Posts op state.shared := by
  have calls : JobCalls job op := (Machine.Path.only_calls reached (job_calls deployment run job) running).1
  by_cases batch : Exists fun batch_size => Exists fun concurrency => job = .deliver batch_size concurrency
  · rcases batch with ⟨batch_size, concurrency, rfl⟩
    have safe : forall before after, PaymentsKept before -> Clear run before ∧ before.own run = [] ->
        start deployment (.deliver batch_size concurrency) run before = some after -> PaymentsKept after ->
        PaymentsEvolve before after -> (posting_discipline deployment).Safe run (fun _ => whatever) (fun _ => whatever)
          (DeliverDueWebhooksHandler.handle batch_size deployment.retry_policy concurrency) after := by
      intro before after _ silent started kept' _
      cases started
      exact batch_posts batch_size concurrency deployment.retry_policy _ kept' silent.1
    exact @Discipline.Verified.asked _ (service deployment) _ (fun _ => Posts) run _ _ (payment_verified deployment)
      (.deliver batch_size concurrency) (fun _ => whatever) (fun _ => whatever) safe state reached op next running
  · refine posts_of_ne (unsent_of_calls calls (fun batch_size concurrency same => ?_)) state.shared
    exact batch ⟨batch_size, concurrency, same⟩

end Properties
end Payments
