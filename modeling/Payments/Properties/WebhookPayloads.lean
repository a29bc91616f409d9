import Payments.Properties.PaymentCorrelations
import Payments.Properties.PaymentEnds
import Payments.Properties.WebhookExclusion
import Payments.Properties.WebhookPayments

namespace Payments
namespace Properties

open Concurrency Domain Infrastructure Application Prog UnitOfWork Payments.System

/-!
# What webhooks say

The name of an event is frozen in its delivery, and everything else is read
from the payment again for each send.  The two agree, because a delivery is
committed with the end of its payment and neither changes afterwards in what a
webhook says.  What it says is also what the call that has created the payment
has asked for.
-/

variable {deployment : Deployment} {policy : RetryPolicy} {world after : World} {run : RunId} {op : Op} {key : UUID}

/-! ## The subject of a delivery -/

/-- What a webhook says of its delivery. -/
structure SameSubject (old new : WebhookDeliveryModel) : Prop where
  id : new.id = old.id
  payment_id : new.payment_id = old.payment_id
  event_type : new.event_type = old.event_type
  correlation_id : new.correlation_id = old.correlation_id

theorem SameSubject.refl (row : WebhookDeliveryModel) : SameSubject row row := ⟨rfl, rfl, rfl, rfl⟩

/-- Attempts and answers of a delivery are not posted. -/
theorem SameSubject.request {old new : WebhookDeliveryModel} (same : SameSubject old new) (payment : Payment) :
    webhook_request payment new.to_domain = webhook_request payment old.to_domain := by
  simp only [webhook_request, build_webhook_payload, WebhookDeliveryModel.to_domain, same.id, same.event_type,
    same.correlation_id]

/-- A commit keeps the subject of each delivery. -/
theorem Committable.subject (committable : Committable policy run key world) {row : WebhookDeliveryModel}
    (found : (world.cell .webhook_deliveries key).committed = some row) : Exists fun later =>
      ((world.commit run).cell .webhook_deliveries key).committed = some later ∧ SameSubject row later := by
  rw [World.cell_commit]
  cases committable with
  | apart free unsent => exact ⟨row, by rw [Cell.commit_of_not_heldBy free, found], .refl row⟩
  | kept old own locks unsent =>
      subst own
      rw [locks.committed] at found
      cases found
      exact ⟨row, by rw [Cell.commit_of_lock locks.locked], .refl row⟩
  | created new created vacant locked unsent =>
      rw [vacant] at found
      cases found
  | recorded old own delivery records =>
      subst own
      rw [records.committed] at found
      cases found
      rcases records.answered with ⟨outcome, result, _, _, computed⟩
      have made := (recorded_cases computed).2
      refine ⟨WebhookDeliveryModel.to_model delivery, by rw [Cell.commit_of_lock records.locked], ?_⟩
      exact ⟨congrArg WebhookDelivery.id made, congrArg WebhookDelivery.payment_id made,
        congrArg WebhookDelivery.event_type made, congrArg WebhookDelivery.correlation_id made⟩

theorem subject_kept {state next : (service deployment).State} {action : (service deployment).Action}
    (reached : Machine.Reachable (fun _ _ => True) World.initial state) (taken : Machine.step state action = some next)
    {row : WebhookDeliveryModel} (found : (state.shared.cell .webhook_deliveries key).committed = some row) :
    Exists fun later => (next.shared.cell .webhook_deliveries key).committed = some later ∧ SameSubject row later := by
  have unmoved : (next.shared.cell .webhook_deliveries key).committed =
      (state.shared.cell .webhook_deliveries key).committed -> Exists fun later =>
        (next.shared.cell .webhook_deliveries key).committed = some later ∧ SameSubject row later :=
    fun same => ⟨row, same.trans found, .refl row⟩
  rcases Machine.step_cases taken with
    ⟨run, job, shared, absent, started, rfl⟩ | ⟨run, job, op, rest, choice, outcome, running, ran, rfl⟩ |
    ⟨run, job, op, rest, running, rfl⟩ | ⟨event, shared, happened, rfl⟩
  · refine unmoved ?_
    rcases start_cases started with rfl | ⟨_, _, _, _, rfl⟩ <;> rfl
  · have executed := service_executed ran
    by_cases commit : op = .commit
    · subst commit
      rcases executed.commit_cases with same | same
      · exact unmoved (congrArg (fun world => (World.cell .webhook_deliveries key world).committed) same)
      · have permits := (delivery_verified deployment).permitted reached running
        rcases ((permits.committing rfl).2 key).subject found with ⟨later, installed, subject⟩
        refine ⟨later, ?_, subject⟩
        rw [same]
        exact installed
    · exact unmoved ((executed.cell .webhook_deliveries key).committed_same commit)
  · refine unmoved ?_
    have crashed := @World.crash_cell run state.shared .webhook_deliveries key
    exact (congrArg Cell.committed crashed).trans Cell.rollback_committed
  · exact unmoved (congrArg Cell.committed ((World.happen_occurred happened).cell .webhook_deliveries key))

/-! ## Requests and committed rows -/

/-- The request shows a committed delivery and its payment, which has ended. -/
def Portrays (request : WebhookRequest) (world : World) : Prop :=
  Exists fun delivery => Exists fun payment =>
    (world.cell .webhook_deliveries request.x_event_id).committed = some delivery ∧
      EndedAs delivery.payment_id payment world ∧ request = webhook_request payment delivery.to_domain

theorem Portrays.step {state next : (service deployment).State} {action : (service deployment).Action}
    {request : WebhookRequest} (portrays : Portrays request state.shared)
    (reached : Machine.Reachable (fun _ _ => True) World.initial state)
    (taken : Machine.step state action = some next) : Portrays request next.shared := by
  rcases portrays with ⟨delivery, payment, found, ended, posted⟩
  rcases subject_kept reached taken found with ⟨later, found', subject⟩
  have evolves : PaymentsEvolve state.shared next.shared :=
    (payment_verified deployment).evolves reached (.step action .refl taken trivial)
  refine ⟨later, payment, found', subject.payment_id ▸ ended.stable evolves, posted.trans ?_⟩
  exact (subject.request payment).symm

theorem Portrays.path {state later : (service deployment).State} {request : WebhookRequest}
    (portrays : Portrays request state.shared) (reached : Machine.Reachable (fun _ _ => True) World.initial state)
    (path : Machine.Path (fun _ _ => True) state later) : Portrays request later.shared := by
  induction path with
  | refl => exact portrays
  | step action earlier taken _ inductionHypothesis => exact inductionHypothesis.step (reached.trans earlier) taken

/-- The identifier of an event determines what is posted for it. -/
theorem Portrays.unique {request other : WebhookRequest} (portrays : Portrays request world)
    (portrays' : Portrays other world) (same : other.x_event_id = request.x_event_id) : other = request := by
  rcases portrays with ⟨delivery, payment, found, ⟨row, committed, _, load⟩, posted⟩
  rcases portrays' with ⟨delivery', payment', found', ⟨row', committed', _, load'⟩, posted'⟩
  rw [same, found] at found'
  cases found'
  rw [committed] at committed'
  cases committed'
  rw [load] at load'
  cases load'
  exact posted'.trans posted.symm

/-- A batch has built the request: it has been posted, or a task of the batch holds it. -/
inductive Built (request : WebhookRequest) (world : World) : Prop where
  | called (run : RunId) (recorded : (.environment, .send_called run request) ∈ world.trace)
  | waiting (run : RunId) (task : SendTask) (listed : task ∈ (world.sending run).tasks)
      (holds : task.request = some request)

/-- What a new batch posts shows committed rows. -/
theorem portrays_started {state next : (service deployment).State} {action : (service deployment).Action} {job : Job}
    {requests : List (WebhookDelivery × Option WebhookRequest)} {concurrency : Int}
    {rest : Except Error Unit -> Program job.Result}
    (reached : Machine.Reachable (fun _ _ => True) World.initial state) (taken : Machine.step state action = some next)
    (running : state.phase run = .running job (.call (.send_all requests concurrency) rest))
    {request : WebhookDelivery × Option WebhookRequest} (listed : request ∈ requests) {posted : WebhookRequest}
    (holds : request.2 = some posted) : Portrays posted next.shared := by
  have permits := (delivery_verified deployment).permitted reached running
  rcases ((permits.sending requests concurrency rfl).2.2 request listed).2 with ⟨row, same, locks, _⟩
  rcases posts_asked reached running requests concurrency rfl request listed posted holds with ⟨payment, ended, rfl⟩
  rw [← same] at ended ⊢
  have portrays : Portrays (webhook_request payment row.to_domain) state.shared :=
    ⟨row, payment, locks.committed, ended, rfl⟩
  exact portrays.step reached taken

/-! ## What has been built before a step -/

theorem Built.of_delivered {request : WebhookRequest} {message : Message}
    (built : Built request (deliver run message world)) : Built request world := by
  cases built with
  | called owner recorded =>
      rcases List.mem_cons.mp recorded with new | before
      · cases new
      · exact .called owner before
  | waiting owner task listed holds => exact .waiting owner task listed holds

theorem Built.of_crash {request : WebhookRequest} (built : Built request (world.crash run)) : Built request world := by
  cases built with
  | called owner recorded =>
      rw [World.crash_trace] at recorded
      rcases List.mem_cons.mp recorded with new | before
      · cases new
      · exact .called owner before
  | waiting owner task listed holds =>
      rw [sending_crash] at listed
      by_cases mine : owner = run
      · subst mine
        rw [Function.update_self] at listed
        cases listed
      · rw [Function.update_of_ne mine] at listed
        exact .waiting owner task listed holds

/-- Nobody posts what no task holds. -/
theorem Built.of_occurred {request : WebhookRequest} (built : Built request after)
    (occurred : World.Occurred world after) : Built request world := by
  cases built with
  | called owner recorded =>
      rcases occurred.trace with same | ⟨noted, _, same⟩
      · exact .called owner (same ▸ recorded)
      · rcases List.mem_cons.mp (same ▸ recorded) with new | before
        · cases new
          rcases task_of_send occurred same with ⟨task, listed, holds⟩
          exact .waiting owner task listed holds
        · exact .called owner before
  | waiting owner task listed holds =>
      rcases task_untouched (occurred.untouched owner) listed with ⟨old, before, _, same⟩
      exact .waiting owner old before (same.symm.trans holds)

/-- An operation builds only what it gives to its tasks. -/
theorem Built.of_executed {request : WebhookRequest} {answer : Except Error op.Answer} (built : Built request after)
    (executed : World.Executed run world op after answer) : Built request world ∨
      Exists fun requests => Exists fun concurrency => op = .send_all requests concurrency ∧
        Exists fun entry : WebhookDelivery × Option WebhookRequest => entry ∈ requests ∧ entry.2 = some request := by
  cases built with
  | called owner recorded =>
      refine .inl (.called owner ?_)
      rcases executed.trace with same | ⟨event, _, same⟩
      · exact same ▸ recorded
      · rcases List.mem_cons.mp (same ▸ recorded) with new | before
        · cases new
        · exact before
  | waiting owner task listed holds =>
      by_cases mine : owner = run
      · subst mine
        cases sending_executed executed with
        | same same => exact .inl (.waiting owner task (same ▸ listed) holds)
        | started requests concurrency operation same =>
            rw [same, tasks_set_sending] at listed
            rcases List.mem_map.mp listed with ⟨entry, member, rfl⟩
            exact .inr ⟨requests, concurrency, operation, entry, member, holds⟩
        | ended same =>
            rw [same, tasks_set_sending] at listed
            cases listed
      · exact .inl (.waiting owner task ((sending_executed executed).apart mine ▸ listed) holds)

/-- Whatever a batch has built shows committed rows. -/
theorem portrays_built {state : (service deployment).State}
    (reached : Machine.Reachable (fun _ _ => True) World.initial state) {request : WebhookRequest}
    (built : Built request state.shared) : Portrays request state.shared := by
  induction reached with
  | refl =>
      cases built with
      | called run recorded => cases recorded
      | waiting run task listed => cases listed
  | @step state next action earlier taken _ inductionHypothesis =>
      have before : Built request state.shared -> Portrays request next.shared :=
        fun built => (inductionHypothesis built).step earlier taken
      rcases Machine.step_cases taken with
        ⟨run, job, shared, absent, started, rfl⟩ | ⟨run, job, op, rest, choice, outcome, running, ran, rfl⟩ |
        ⟨run, job, op, rest, running, rfl⟩ | ⟨event, shared, happened, rfl⟩
      · rcases start_cases started with rfl | ⟨settings, message, _, _, rfl⟩
        · exact before built
        · exact before built.of_delivered
      · rcases built.of_executed (service_executed ran) with known | ⟨requests, concurrency, rfl, entry, member, holds⟩
        · exact before known
        · exact portrays_started earlier taken running member holds
      · exact before built.of_crash
      · exact before (built.of_occurred (World.happen_occurred happened))

end Properties
end Payments
