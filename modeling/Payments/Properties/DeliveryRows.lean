import Payments.Concurrency.Histories
import Payments.Application.Handlers
import Payments.Infrastructure.Changes

namespace Payments
namespace Properties

open Concurrency Domain Infrastructure Application

/-!
# The bookkeeping of webhook deliveries

A delivery counts its attempts in one field with two meanings, and the policy,
the increment and the terminal marks stand in three methods.  `Booked` says
what a row has to look like after a given list of sends, and recording one more
send keeps it.  Which sends have been recorded is read off the trace.
-/

variable {policy : RetryPolicy} {row : WebhookDeliveryModel} {outcomes : List ClientOutcome}

/-! ## Outcomes -/

def SendSucceeds (outcome : ClientOutcome) : Prop :=
  Exists fun result => send outcome = .ok result ∧ result.ok = true

/-- The send has returned, and its answer counts as a failure. -/
def SendFails (outcome : ClientOutcome) : Prop :=
  Exists fun result => send outcome = .ok result ∧ result.ok = false

/-- The retry is due so many delays of the policy after this time. -/
def DueAfter (policy : RetryPolicy) (time : Datetime) (failures : Rat) (next_retry_at : Option Datetime) : Prop :=
  Exists fun delay => policy.base_delay = .finite delay ∧ next_retry_at = some (time + delay * failures)

/-- The row of a delivery with these recorded sends, newest first. -/
inductive Booked (policy : RetryPolicy) (row : WebhookDeliveryModel) : List ClientOutcome -> Prop where
  | created (pending : row.status = .PENDING) (first : row.attempt = 1) (unscheduled : row.next_retry_at = none) :
      Booked policy row []
  | scheduled (outcomes : List ClientOutcome) (sent : outcomes ≠ []) (pending : row.status = .PENDING)
      (next : row.attempt = outcomes.length + 1) (within : (row.attempt : Int) ≤ policy.max_attempts)
      (failed : forall outcome, outcome ∈ outcomes -> SendFails outcome)
      (due : DueAfter policy row.updated_at outcomes.length row.next_retry_at) : Booked policy row outcomes
  | succeeded (last : ClientOutcome) (outcomes : List ClientOutcome) (success : row.status = .SUCCESS)
      (number : row.attempt = outcomes.length + 1) (within : (row.attempt : Int) ≤ policy.max_attempts)
      (accepts : SendSucceeds last) (failed : forall outcome, outcome ∈ outcomes -> SendFails outcome)
      (unscheduled : row.next_retry_at = none) : Booked policy row (last :: outcomes)
  | exhausted (outcomes : List ClientOutcome) (failure : row.status = .FAILED)
      (number : row.attempt = outcomes.length) (limit : (row.attempt : Int) = policy.max_attempts)
      (failed : forall outcome, outcome ∈ outcomes -> SendFails outcome)
      (unscheduled : row.next_retry_at = none) : Booked policy row outcomes

/-- A row that has just been created by the processing of a payment. -/
def Created (row : WebhookDeliveryModel) : Prop :=
  Exists fun id => Exists fun payment_id => Exists fun event_type => Exists fun correlation_id =>
    Exists fun created_at =>
      row = WebhookDeliveryModel.to_model (WebhookDelivery.create id payment_id event_type correlation_id created_at)

theorem Created.booked (created : Created row) : Booked policy row [] := by
  rcases created with ⟨id, payment_id, event_type, correlation_id, created_at, rfl⟩
  exact .created rfl rfl rfl

theorem Created.pending (created : Created row) : row.status = .PENDING := by
  rcases created with ⟨id, payment_id, event_type, correlation_id, created_at, rfl⟩
  rfl

namespace Booked

/-- The attempt of a pending row is the number of the next one. -/
theorem pending_attempt (booked : Booked policy row outcomes) (pending : row.status = .PENDING) :
    row.attempt = outcomes.length + 1 ∧ (row.attempt : Int) ≤ policy.max_attempts ∧
      forall outcome, outcome ∈ outcomes -> SendFails outcome := by
  cases booked with
  | created _ first => exact ⟨first, by rw [first]; exact policy.at_least_one, fun _ listed => by cases listed⟩
  | scheduled _ _ _ next within failed => exact ⟨next, within, failed⟩
  | succeeded _ _ success =>
      rw [pending] at success
      cases success
  | exhausted _ failure =>
      rw [pending] at failure
      cases failure

theorem bounds (booked : Booked policy row outcomes) :
    1 ≤ row.attempt ∧ (row.attempt : Int) ≤ policy.max_attempts := by
  have positive := policy.at_least_one
  cases booked with
  | created _ first => omega
  | scheduled _ _ _ next within => omega
  | succeeded _ _ _ number within => omega
  | exhausted _ _ _ limit => omega

/-- A row that is not pending is not scheduled. -/
theorem unscheduled (booked : Booked policy row outcomes) (ended : row.status ≠ .PENDING) :
    row.next_retry_at = none := by
  cases booked with
  | created pending => exact absurd pending ended
  | scheduled _ _ pending => exact absurd pending ended
  | succeeded _ _ _ _ _ _ _ unscheduled => exact unscheduled
  | exhausted _ _ _ _ _ unscheduled => exact unscheduled

end Booked

/-! ## Recording one send -/

open DeliverDueWebhooksHandler (recorded)

/-- If the result has to be repeated, the policy has a time for it. -/
def Schedulable (policy : RetryPolicy) (delivery : WebhookDelivery) (result : WebhookSendResult) (now : Datetime) : Prop :=
  result.ok = false -> policy.should_retry delivery.attempt = true ->
    Exists fun due => policy.next_retry_at delivery.attempt now = .ok due

theorem due_of_scheduled {attempt : Nat} {now due : Datetime} (scheduled : policy.next_retry_at attempt now = .ok due) :
    DueAfter policy now attempt (some due) := by
  unfold RetryPolicy.next_retry_at at scheduled
  split at scheduled
  · next delay finite =>
      split at scheduled
      · cases scheduled
        exact ⟨delay, finite, rfl⟩
      · cases scheduled
  · split at scheduled <;> cases scheduled
  · cases scheduled

/-- The delivery after one answered send. -/
def changed_by (policy : RetryPolicy) (delivery : WebhookDelivery) (result : WebhookSendResult) (now : Datetime) :
    WebhookDelivery :=
  { delivery with
    attempt := if result.ok = false ∧ (delivery.attempt : Int) < policy.max_attempts then delivery.attempt + 1
      else delivery.attempt
    status := if result.ok = true then .SUCCESS
      else if (delivery.attempt : Int) < policy.max_attempts then .PENDING else .FAILED
    response_code := result.status_code
    response_body := result.body
    next_retry_at := if result.ok = false ∧ (delivery.attempt : Int) < policy.max_attempts then
      (policy.next_retry_at delivery.attempt now).toOption else none
    updated_at := now }

/-- A delivery that is not pending accepts no result. -/
theorem recorded_pending {delivery after : WebhookDelivery} {result : WebhookSendResult} {now : Datetime}
    (kept : recorded delivery result now policy = .ok after) : delivery.status = .PENDING := by
  cases status : delivery.status with
  | PENDING => rfl
  | _ =>
      cases ok : result.ok <;> cases retry : policy.should_retry delivery.attempt <;>
        cases due : policy.next_retry_at delivery.attempt now <;>
        simp [recorded, ok, retry, due, WebhookDelivery.mark_success, WebhookDelivery.record_failure,
          WebhookDelivery.schedule_retry, WebhookDelivery.mark_failed, WebhookDelivery.transition, status,
          WebhookDelivery.VALID_TRANSITIONS, Bind.bind, Except.bind] at kept

/-- A result that is recorded was schedulable. -/
theorem recorded_schedulable {delivery after : WebhookDelivery} {result : WebhookSendResult} {now : Datetime}
    (kept : recorded delivery result now policy = .ok after) : Schedulable policy delivery result now := by
  intro failed retry
  cases due : policy.next_retry_at delivery.attempt now with
  | ok time => exact ⟨time, rfl⟩
  | error raised => simp [recorded, failed, retry, due, WebhookDelivery.record_failure, Bind.bind, Except.bind] at kept

/-- What `recorded` makes of a pending delivery. -/
theorem recorded_of_pending {delivery : WebhookDelivery} (pending : delivery.status = .PENDING)
    {result : WebhookSendResult} {now : Datetime} (schedulable : Schedulable policy delivery result now) :
    recorded delivery result now policy = .ok (changed_by policy delivery result now) := by
  cases ok : result.ok with
  | true =>
      simp [recorded, changed_by, ok, WebhookDelivery.mark_success, WebhookDelivery.transition, pending,
        WebhookDelivery.VALID_TRANSITIONS, Bind.bind, Except.bind, Pure.pure, Except.pure]
  | false =>
      by_cases within : (delivery.attempt : Int) < policy.max_attempts
      · rcases schedulable ok (decide_eq_true within) with ⟨due, scheduled⟩
        simp [recorded, changed_by, ok, within, scheduled, RetryPolicy.should_retry, WebhookDelivery.record_failure,
          WebhookDelivery.schedule_retry, WebhookDelivery.transition, pending, WebhookDelivery.VALID_TRANSITIONS,
          Bind.bind, Except.bind, Pure.pure, Except.pure, Except.toOption]
      · simp [recorded, changed_by, ok, within, RetryPolicy.should_retry, WebhookDelivery.record_failure,
          WebhookDelivery.mark_failed, WebhookDelivery.transition, pending, WebhookDelivery.VALID_TRANSITIONS,
          Bind.bind, Except.bind, Pure.pure, Except.pure]

theorem recorded_cases {delivery after : WebhookDelivery} {result : WebhookSendResult} {now : Datetime}
    (kept : recorded delivery result now policy = .ok after) :
    delivery.status = .PENDING ∧ after = changed_by policy delivery result now :=
  ⟨recorded_pending kept, Except.ok.inj (kept.symm.trans
    (recorded_of_pending (recorded_pending kept) (recorded_schedulable kept)))⟩

/-- Recording a send books it. -/
theorem Booked.recorded {delivery : WebhookDelivery} {outcome : ClientOutcome} {result : WebhookSendResult}
    {now : Datetime} (booked : Booked policy row outcomes) (sent : send outcome = .ok result)
    (kept : recorded row.to_domain result now policy = .ok delivery) :
    Booked policy (WebhookDeliveryModel.to_model delivery) (outcome :: outcomes) := by
  rcases recorded_cases kept with ⟨pending, rfl⟩
  have pending : row.status = .PENDING := pending
  rcases booked.pending_attempt pending with ⟨number, within, failed⟩
  have number' : row.to_domain.attempt = outcomes.length + 1 := number
  have within' : (row.to_domain.attempt : Int) ≤ policy.max_attempts := within
  cases ok : result.ok with
  | true =>
      refine .succeeded outcome outcomes ?_ ?_ ?_ ⟨result, sent, ok⟩ failed ?_
      · simp [WebhookDeliveryModel.to_model, changed_by, ok]
      · simpa [WebhookDeliveryModel.to_model, changed_by, ok] using number'
      · simpa [WebhookDeliveryModel.to_model, changed_by, ok] using within'
      · simp [WebhookDeliveryModel.to_model, changed_by, ok]
  | false =>
      have failed' : forall found, found ∈ outcome :: outcomes -> SendFails found := by
        intro found listed
        rcases List.mem_cons.mp listed with rfl | earlier
        · exact ⟨result, sent, ok⟩
        · exact failed found earlier
      by_cases retry : (row.to_domain.attempt : Int) < policy.max_attempts
      · refine .scheduled (outcome :: outcomes) (List.cons_ne_nil _ _) ?_ ?_ ?_ failed' ?_
        · simp [WebhookDeliveryModel.to_model, changed_by, ok, retry]
        · simpa [WebhookDeliveryModel.to_model, changed_by, ok, retry] using number'
        · simp only [WebhookDeliveryModel.to_model, changed_by, ok, retry, and_self, if_true, Nat.cast_add, Nat.cast_one]
          omega
        · rcases recorded_schedulable kept ok (decide_eq_true retry) with ⟨due, scheduled⟩
          have due := due_of_scheduled scheduled
          rw [number'] at due
          simp only [WebhookDeliveryModel.to_model, changed_by, ok, retry, scheduled, and_self, if_true, List.length_cons]
          exact due
      · refine .exhausted (outcome :: outcomes) ?_ ?_ ?_ failed' ?_
        · simp [WebhookDeliveryModel.to_model, changed_by, ok, retry]
        · simpa [WebhookDeliveryModel.to_model, changed_by, ok, retry] using number'
        · simp only [WebhookDeliveryModel.to_model, changed_by, ok, retry, and_false, if_false]
          omega
        · simp [WebhookDeliveryModel.to_model, changed_by, ok, retry]

/-! ## The sends on the trace -/

/-- The outcomes of the sends of one delivery by one run, newest first. -/
def sends_of (run : RunId) (key : UUID) : List (Actor × Event) -> List ClientOutcome
  | [] => []
  | (.environment, .send_finished worker delivery_id outcome) :: earlier =>
      if worker = run ∧ delivery_id = key then outcome :: sends_of run key earlier else sends_of run key earlier
  | _ :: earlier => sends_of run key earlier

/-- The sends of one delivery whose transactions have been committed. -/
def committed_sends (key : UUID) : List (Actor × Event) -> List ClientOutcome
  | [] => []
  | (.run run, .committed _) :: earlier => sends_of run key earlier ++ committed_sends key earlier
  | _ :: earlier => committed_sends key earlier

/-- The version of one delivery that the last commit of it has installed. -/
def last_version (key : UUID) : List (Actor × Event) -> Option WebhookDeliveryModel
  | [] => none
  | (.run _, .committed record) :: earlier =>
      match (record .webhook_deliveries).lookup key with
      | some draft => draft
      | none => last_version key earlier
  | _ :: earlier => last_version key earlier

section

variable {actor : Actor} {event : Event} {run : RunId} {key : UUID} {trace : List (Actor × Event)}

theorem sends_of_cons (apart : forall worker id outcome, event ≠ .send_finished worker id outcome) :
    sends_of run key ((actor, event) :: trace) = sends_of run key trace := by
  cases actor <;> cases event <;> first | rfl | exact absurd rfl (apart _ _ _)

theorem sends_of_run {other : RunId} : sends_of run key ((.run other, event) :: trace) = sends_of run key trace := by
  cases event <;> rfl

theorem committed_sends_cons (apart : forall record, event ≠ .committed record) :
    committed_sends key ((actor, event) :: trace) = committed_sends key trace := by
  cases actor <;> cases event <;> first | rfl | exact absurd rfl (apart _)

theorem committed_sends_environment :
    committed_sends key ((.environment, event) :: trace) = committed_sends key trace := by
  cases event <;> rfl

theorem last_version_cons (apart : forall record, event ≠ .committed record) :
    last_version key ((actor, event) :: trace) = last_version key trace := by
  cases actor <;> cases event <;> first | rfl | exact absurd rfl (apart _)

theorem last_version_environment :
    last_version key ((.environment, event) :: trace) = last_version key trace := by
  cases event <;> rfl

/-- A send that has been counted is on the trace. -/
theorem mem_sends_of {outcome : ClientOutcome} :
    outcome ∈ sends_of run key trace <-> (.environment, .send_finished run key outcome) ∈ trace := by
  induction trace with
  | nil => simp [sends_of]
  | cons entry earlier inductionHypothesis =>
      rcases entry with ⟨actor, event⟩
      by_cases finished : Exists fun worker => Exists fun id => Exists fun found =>
          actor = .environment ∧ event = .send_finished worker id found
      · rcases finished with ⟨worker, id, found, rfl, rfl⟩
        by_cases same : worker = run ∧ id = key
        · rcases same with ⟨rfl, rfl⟩
          simp [sends_of, inductionHypothesis]
        · rw [sends_of, if_neg same, inductionHypothesis, List.mem_cons]
          constructor
          · exact .inr
          · rintro (equal | listed)
            · cases equal
              exact absurd ⟨rfl, rfl⟩ same
            · exact listed
      · have skipped : sends_of run key ((actor, event) :: earlier) = sends_of run key earlier := by
          cases actor with
          | run other => exact sends_of_run
          | environment => exact sends_of_cons (fun worker id found same => finished ⟨worker, id, found, rfl, same⟩)
        rw [skipped, inductionHypothesis, List.mem_cons]
        constructor
        · exact .inr
        · rintro (equal | listed)
          · cases equal
            exact absurd ⟨_, _, _, rfl, rfl⟩ finished
          · exact listed

end

/-! ## Versions that are committed and versions that can be -/

/-- What is committed is what the last commit of the delivery has installed. -/
def Versioned (world : World) : Prop :=
  forall key, (world.cell .webhook_deliveries key).committed = last_version key world.trace

/-- Every version of every delivery can be stored. -/
def Stored (world : World) : Prop :=
  forall key row, (world.cell .webhook_deliveries key).Carries row -> row.storable = true

section

variable {world after : World} {run : RunId} {op : Op} {key : UUID}

/-- A transaction installs the version that its run has locked. -/
theorem lookup_record {name : TableName} {draft : Option (Row name)}
    (locked : (world.cell name key).lock = some (run, draft)) : (world.record run name).lookup key = some draft := by
  have listed : (key, draft) ∈ world.record run name := World.mem_record.mpr locked
  have nodup : ((world.record run name).map Prod.fst).Nodup := World.record_nodup name
  generalize world.record run name = entries at listed nodup
  induction entries with
  | nil => cases listed
  | cons entry rest inductionHypothesis =>
      rcases entry with ⟨other, found⟩
      rw [List.map_cons, List.nodup_cons] at nodup
      rcases List.mem_cons.mp listed with same | later
      · cases same
        exact List.lookup_cons_self
      · have different : (key == other) = false :=
          beq_eq_false_iff_ne.mpr (fun same => nodup.1 (List.mem_map.mpr ⟨(key, draft), later, same⟩))
        rw [List.lookup_cons, different]
        exact inductionHypothesis later nodup.2

theorem lookup_record_of_apart {name : TableName} (apart : ¬ (world.cell name key).HeldBy run) :
    (world.record run name).lookup key = none := by
  rw [List.lookup_eq_none_iff]
  rintro ⟨other, draft⟩ listed
  refine bne_iff_ne.mpr (fun same => ?_)
  have same : key = other := same
  subst same
  exact apart ⟨draft, World.mem_record.mp listed⟩

theorem Versioned.executed {answer : Except Error op.Answer} (versioned : Versioned world)
    (executed : World.Executed run world op after answer) : Versioned after := by
  intro key
  have change := executed.cell .webhook_deliveries key
  by_cases commits : op = .commit
  · subst commits
    rcases executed.commit_cases with rfl | rfl
    · exact versioned key
    · have cell : (world.commit run).cell .webhook_deliveries key =
          (world.cell .webhook_deliveries key).commit run := rfl
      have version : last_version key (world.commit run).trace =
          (match (world.record run .webhook_deliveries).lookup key with
            | some draft => draft
            | none => last_version key world.trace) := rfl
      rw [cell, version]
      by_cases held : (world.cell .webhook_deliveries key).HeldBy run
      · rcases held with ⟨draft, locked⟩
        rw [lookup_record locked, Cell.commit_of_lock locked]
      · rw [lookup_record_of_apart held, Cell.commit_of_not_heldBy held]
        exact versioned key
  · rw [change.committed_same commits, versioned key]
    rcases executed.trace with same | ⟨event, records, same⟩
    · rw [same]
    · rw [same, last_version_cons]
      rintro record rfl
      cases records
      exact commits rfl

theorem Versioned.crash (versioned : Versioned world) : Versioned (world.crash run) := by
  intro key
  rw [World.crash_cell, Cell.rollback_committed, versioned key, World.crash_trace,
    last_version_cons (fun record same => by cases same)]

theorem Versioned.occurred (versioned : Versioned world) (occurred : World.Occurred world after) : Versioned after := by
  intro key
  rw [occurred.cell, versioned key]
  rcases occurred.trace with same | ⟨event, _, same⟩
  · rw [same]
  · rw [same, last_version_environment]

theorem Stored.executed {answer : Except Error op.Answer} (stored : Stored world)
    (unclaimed : forall query limit statement, op ≠ .update_claimable .webhook_deliveries query limit statement)
    (executed : World.Executed run world op after answer) : Stored after := by
  intro key row carried
  rcases (executed.cell .webhook_deliveries key).carries carried with before | written
  · exact stored key row before
  · cases written with
    | updated statement time old operation found selected same =>
        subst operation
        cases executed with
        | raised => exact stored key row carried
        | updated _ _ time' table rows changed accepting storable =>
            rw [World.cell_note, World.cell_set_table_self] at carried
            cases Table.update_touched changed key with
            | kept _ unchanged =>
                rw [unchanged] at carried
                exact stored key row carried
            | written old' seen selected' _ unchanged =>
                rw [unchanged] at carried
                cases carried with
                | committed same => exact stored key row (.committed same)
                | draft same =>
                    have drafted := Option.some.inj (Prod.mk.inj (Option.some.inj same)).2
                    have listed := (Table.mem_update_rows changed).mpr ⟨key, old', seen, selected', drafted⟩
                    exact List.all_eq_true.mp storable row listed
    | claimed query limit statement time old operation => exact absurd operation (unclaimed query limit statement)
    | added operation own =>
        subst operation
        cases executed with
        | raised => exact stored key row carried
        | added _ _ storable _ => exact storable
        | add_refused => exact stored key row carried
    | inserted new table => cases table

theorem Stored.crash (stored : Stored world) : Stored (world.crash run) := by
  intro key row carried
  rw [World.crash_cell] at carried
  exact stored key row (Cell.carries_of_rollback carried)

theorem Stored.of_tables (stored : Stored world) (tables : after.tables = world.tables) : Stored after := by
  intro key row carried
  rw [World.cell, tables] at carried
  exact stored key row carried

end

end Properties
end Payments
