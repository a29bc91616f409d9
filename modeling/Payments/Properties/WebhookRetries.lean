import Payments.Properties.DeliveryBatches
import Payments.Properties.PaymentFinality

namespace Payments
namespace Properties

open Concurrency Domain Infrastructure Application Prog UnitOfWork Payments.System
open DeliverDueWebhooksHandler (recorded)

/-!
# What has become of the webhooks

The results of this module hold in every reachable state of the service: the
bookkeeping of the committed deliveries without any condition, their exclusive
sends as long as the client has converted every exception, and the isolation of
the sends of a batch exactly where each of them can be recorded.
-/

variable {deployment : Deployment} {policy : RetryPolicy} {world after : World} {run : RunId} {key : UUID}
  {outcome : ClientOutcome}

/-! ## The commit of a batch -/

/-- What one send makes of the row of its delivery. -/
structure SendRecorded (policy : RetryPolicy) (outcome : ClientOutcome) (row later : WebhookDeliveryModel) : Prop where
  pending : row.status = .PENDING
  succeeded : SendSucceeds outcome -> later.status = .SUCCESS ∧ later.attempt = row.attempt ∧ later.next_retry_at = none
  failed : ¬ SendSucceeds outcome ->
    if (row.attempt : Int) < policy.max_attempts then
      later.status = .PENDING ∧ later.attempt = row.attempt + 1 ∧
        DueAfter policy later.updated_at row.attempt later.next_retry_at
    else later.status = .FAILED ∧ later.attempt = row.attempt ∧ later.next_retry_at = none
  answered : forall result, send outcome = .ok result ->
    later.response_code = result.status_code ∧ later.response_body = result.body

/-- The run has committed what one of its sends makes of the version of the
delivery that was committed before. -/
def ResultCommitted (policy : RetryPolicy) (run : RunId) (key : UUID) (outcome : ClientOutcome)
    (trace : Trace) : Prop :=
  Exists fun newer => Exists fun record => Exists fun earlier => Exists fun row => Exists fun later =>
    trace = newer ++ (.run run, .committed record) :: earlier ∧ last_version key earlier = some row ∧
      (record .webhook_deliveries).lookup key = some (some later) ∧ SendRecorded policy outcome row later

theorem ResultCommitted.mono {trace later : Trace} (committed : ResultCommitted policy run key outcome trace)
    (grown : trace <:+ later) : ResultCommitted policy run key outcome later := by
  rcases committed with ⟨newer, record, earlier, row, version, same, last, installed, settled⟩
  rcases grown with ⟨newest, extended⟩
  refine ⟨newest ++ newer, record, earlier, row, version, ?_, last, installed, settled⟩
  rw [← extended, same, List.append_assoc]

theorem ResultCommitted.listed {trace : Trace} (committed : ResultCommitted policy run key outcome trace) :
    Exists fun record => (.run run, .committed record) ∈ trace := by
  rcases committed with ⟨newer, record, earlier, row, version, same, _⟩
  exact ⟨record, same ▸ List.mem_append_right _ List.mem_cons_self⟩

theorem send_recorded {row : WebhookDeliveryModel} {delivery : WebhookDelivery} {result : WebhookSendResult}
    {now : Datetime} (answered : send outcome = .ok result)
    (computed : recorded row.to_domain result now policy = .ok delivery) :
    SendRecorded policy outcome row (WebhookDeliveryModel.to_model delivery) := by
  rcases recorded_cases computed with ⟨pending, rfl⟩
  have known : forall found, send outcome = .ok found -> found = result := by
    intro found same
    rw [answered] at same
    exact (Except.ok.inj same).symm
  refine ⟨pending, ?_, ?_, ?_⟩
  · rintro ⟨found, same, ok⟩
    have ok : result.ok = true := known found same ▸ ok
    simp [WebhookDeliveryModel.to_model, WebhookDeliveryModel.to_domain, changed_by, ok]
  · intro unsuccessful
    have failed : result.ok = false := Bool.eq_false_iff.mpr (fun ok => unsuccessful ⟨result, answered, ok⟩)
    by_cases retry : (row.attempt : Int) < policy.max_attempts
    · rcases recorded_schedulable computed failed (decide_eq_true retry) with ⟨due, scheduled⟩
      have scheduled : policy.next_retry_at row.attempt now = .ok due := scheduled
      rw [if_pos retry]
      refine ⟨?_, ?_, ?_⟩
      · simp [WebhookDeliveryModel.to_model, WebhookDeliveryModel.to_domain, changed_by, failed, retry]
      · simp [WebhookDeliveryModel.to_model, WebhookDeliveryModel.to_domain, changed_by, failed, retry]
      · simpa [WebhookDeliveryModel.to_model, WebhookDeliveryModel.to_domain, changed_by, failed, retry, scheduled,
          Except.toOption] using due_of_scheduled scheduled
    · rw [if_neg retry]
      simp [WebhookDeliveryModel.to_model, WebhookDeliveryModel.to_domain, changed_by, failed, retry]
  · intro found same
    rw [known found same]
    exact ⟨rfl, rfl⟩

/-- Every send of the run has its result committed. -/
structure Accomplished (policy : RetryPolicy) (run : RunId) (world : World) : Prop where
  idle : (world.sending run).tasks = []
  scheduled : Scheduled policy (world.own run)
  results : forall key outcome, outcome ∈ sends_of run key world.trace ->
    Recordable outcome ∧ ResultCommitted policy run key outcome world.trace

theorem Recording.committed (kept : DeliveriesKept policy world) (recording : Recording policy run [] world)
    (queued : Queued policy [] (world.own run)) : Accomplished policy run (world.commit run) where
  idle := recording.idle
  scheduled := by
    have own : (world.commit run).own run = .committed (world.record run) :: world.own run := World.own_note_self _
    rw [own]
    exact queued.scheduled
  results := by
    intro key outcome listed
    have sends : sends_of run key (world.commit run).trace = sends_of run key world.trace := sends_of_run
    rw [sends] at listed
    cases recording.others key (by simp) with
    | apart _ unsent =>
        rw [unsent] at listed
        cases listed
    | kept row own locks unsent =>
        rw [unsent] at listed
        cases listed
    | created row created vacant locked unsent =>
        rw [unsent] at listed
        cases listed
    | recorded row own delivery records =>
        subst own
        rcases records.answered with ⟨sent, result, only, answered, computed⟩
        rw [only, List.mem_singleton] at listed
        subst listed
        have storable : (WebhookDeliveryModel.to_model delivery).storable = true :=
          kept.stored row.id _ (.draft records.locked)
        refine ⟨⟨result, answered, ?_⟩, [], world.record run, world.trace, row, _, rfl, ?_, lookup_record records.locked,
          send_recorded answered computed⟩
        · have before : row.storable = true := kept.stored row.id row (.committed records.committed)
          rw [← recorded_storable computed before]
          exact storable
        · rw [← kept.versioned]
          exact records.committed

def accomplished (run : RunId) : (delivery_discipline deployment).Assertion run where
  holds := Accomplished deployment.retry_policy run
  stable := by
    intro before after known rely _
    refine ⟨(tasks_untouched rely.1.untouched).mpr known.idle, rely.1.untouched.own ▸ known.scheduled,
      fun key outcome listed => ?_⟩
    rw [rely.1.sends known.idle] at listed
    rcases known.results key outcome listed with ⟨recordable, committed⟩
    exact ⟨recordable, committed.mono rely.2.trace⟩

theorem batch_commit_triple :
    (delivery_discipline deployment).Triple (recording run []) (await .commit) (fun _ => accomplished run)
      (collapsed run) := by
  refine Discipline.Triple.perform (fun world _ known => ?_) (fun world choice after value kept known ran _ _ => ?_)
    (fun world choice after raised kept known ran _ _ => ?_)
  · refine ⟨by simp, by simp, by simp, by simp, by simp, fun _ => ⟨known.1.idle, fun key => known.1.others key (by simp)⟩,
      by simp⟩
  · have executed := service_executed ran
    cases executed with
    | committed => exact Recording.committed kept known.1 known.2
  · have ran : World.exec_commit run choice world = (after, .error raised) := Option.some.inj ran
    have accepting : world.refusing run = false := known.1.accepting
    have idle : (world.sending run).tasks = [] := known.1.idle
    rw [World.exec_commit, if_neg (by rw [accepting]; simp)] at ran
    split at ran
    · next interruption _ =>
        cases ran
        refine ⟨fun _ => ?_, .interrupted (interrupted_error interruption)⟩
        split
        · exact idle
        · exact idle
    · cases ran

/-! ## The end of the session -/

theorem sends_rollback : sends_of run key (world.rollback run).trace = sends_of run key world.trace :=
  sends_of_run

theorem Collapse.rollback {raised : Error} (collapse : Collapse policy run raised world) :
    Collapse policy run raised (world.rollback run) := by
  have own : (world.rollback run).own run = .rolled_back :: world.own run := World.own_note_self _
  have listed : forall record, .committed record ∈ (world.rollback run).own run -> .committed record ∈ world.own run := by
    intro record listed
    rw [own] at listed
    exact (List.mem_cons.mp listed).resolve_left (fun impossible => by cases impossible)
  cases collapse with
  | interrupted outside => exact .interrupted outside
  | unsent silent unrecorded =>
      refine .unsent ⟨silent.idle, fun key => ?_⟩ ?_
      · rw [sends_rollback]
        exact silent.unsent key
      · rw [own]
        exact unrecorded
  | spoiled key outcome sent unrecordable uncommitted =>
      exact .spoiled key outcome (by rw [sends_rollback]; exact sent) unrecordable
        (fun record found => uncommitted record (listed record found))
  | unscheduled key outcome sent unscheduled uncommitted =>
      refine .unscheduled key outcome (by rw [sends_rollback]; exact sent) ?_
        (fun record found => uncommitted record (listed record found))
      rw [own]
      exact unscheduled

theorem Collapse.release {raised : Error} (collapse : Collapse policy run raised world) :
    Collapse policy run raised (world.release run) := by
  cases collapse with
  | interrupted outside => exact .interrupted outside
  | unsent silent unrecorded => exact .unsent ⟨silent.idle, silent.unsent⟩ unrecorded
  | spoiled key outcome sent unrecordable uncommitted => exact .spoiled key outcome sent unrecordable uncommitted
  | unscheduled key outcome sent unscheduled uncommitted => exact .unscheduled key outcome sent unscheduled uncommitted

theorem Accomplished.release (known : Accomplished policy run world) : Accomplished policy run (world.release run) :=
  ⟨known.idle, known.scheduled, known.results⟩

/-- A rollback and the end of a session raise only what interrupts them. -/
theorem rollback_raised {choice : Choice} {raised : Error}
    (ran : World.exec run .rollback choice world = some (after, .error raised)) : Interrupted raised := by
  have ran : World.exec_rollback run choice world = (after, .error raised) := Option.some.inj ran
  have answered := (Prod.mk.inj ran).2
  split at answered
  · next interruption _ =>
      cases answered
      exact interrupted_error interruption
  · cases answered

theorem close_raised {choice : Choice} {raised : Error}
    (ran : World.exec run .close choice world = some (after, .error raised)) : Interrupted raised := by
  have ran : World.exec_close run choice world = (after, .error raised) := Option.some.inj ran
  have answered := (Prod.mk.inj ran).2
  split at answered
  · next interruption _ =>
      cases answered
      exact interrupted_error interruption
  · cases answered

theorem collapsed_rollback_triple (raised : Error) :
    (delivery_discipline deployment).Triple (collapsed run raised) (await .rollback) (fun _ => collapsed run raised)
      (collapsed run) := by
  refine Discipline.Triple.perform (fun world _ known => ?_) (fun world choice after value _ known ran _ _ => ?_)
    (fun world choice after raised' _ known ran _ _ => ?_)
  · exact permits_of_ending (.inl rfl) known.1
  · rw [World.exec_rollback_eq ran]
    exact ⟨fun converted => known.1 (converted.mono (List.suffix_cons _ _)), known.2.rollback⟩
  · have outside := rollback_raised ran
    rw [World.exec_rollback_eq ran]
    exact ⟨fun converted => known.1 (converted.mono (List.suffix_cons _ _)), .interrupted outside⟩

theorem collapsed_close_triple (raised : Error) :
    (delivery_discipline deployment).Triple (collapsed run raised) (await .close) (fun _ => collapsed run raised)
      (collapsed run) := by
  refine Discipline.Triple.perform (fun world _ known => ?_) (fun world choice after value _ known ran _ _ => ?_)
    (fun world choice after raised' _ known ran _ _ => ?_)
  · exact permits_of_ending (.inr rfl) known.1
  · rw [World.exec_close_eq ran]
    exact ⟨known.1, known.2.release⟩
  · have outside := close_raised ran
    rw [World.exec_close_eq ran]
    exact ⟨known.1, .interrupted outside⟩

theorem accomplished_close_triple :
    (delivery_discipline deployment).Triple (accomplished run) (await .close) (fun _ => accomplished run)
      (collapsed run) := by
  refine Discipline.Triple.perform (fun world _ known => ?_) (fun world choice after value _ known ran _ _ => ?_)
    (fun world choice after raised _ known ran _ _ => ?_)
  · exact permits_of_ending (.inr rfl) (fun _ => Accomplished.idle known)
  · rw [World.exec_close_eq ran]
    exact Accomplished.release known
  · have outside := close_raised ran
    rw [World.exec_close_eq ran]
    have idle : (world.sending run).tasks = [] := Accomplished.idle known
    exact ⟨fun _ => idle, .interrupted outside⟩

theorem deliver_triple (batch_size concurrency : Int) :
    (delivery_discipline deployment).Triple (claimed run [])
      (DeliverDueWebhooksHandler.handle batch_size deployment.retry_policy concurrency)
      (fun _ => accomplished run) (collapsed run) :=
  transactional_triple (delivery_body_triple batch_size concurrency) (fun _ => batch_commit_triple)
    collapsed_rollback_triple collapsed_close_triple (fun _ => accomplished_close_triple)

/-! ## Every job -/

def delivery_post (run : RunId) : (job : Job) -> job.Result -> (delivery_discipline deployment).Assertion run
  | .deliver _ _, _ => accomplished run
  | _, _ => .fact True

def delivery_error (run : RunId) (job : Job) (raised : Error) : (delivery_discipline deployment).Assertion run :=
  match job with
  | .deliver _ _ => collapsed run raised
  | _ => .fact True

def delivery_verified (deployment : Deployment) : (delivery_discipline deployment).Verified World.initial where
  upheld := deliveries_upheld deployment
  idle := fun run => claimed run []
  post := delivery_post
  error := delivery_error
  initial_idle := by
    intro run
    refine ⟨⟨rfl, fun _ => rfl⟩, List.nodup_nil, (fun _ listed => by cases listed), (fun _ listed => by cases listed),
      ?_, rfl, (fun _ listed => by cases listed), rfl⟩
    rintro key _ ⟨draft, locked⟩
    cases locked
  programs := by
    intro run job state after kept idle started kept' _
    rcases idle with ⟨silent, batch⟩
    have neutral_safe : forall {X : Type} {program : Program X} {world : World},
        DeliveriesKept deployment.retry_policy world -> Creating run world -> program.OnlyCalls Undelivering ->
        (delivery_discipline deployment).Safe run (fun _ => .fact True) (fun _ => .fact True) program world := by
      intro X program world inv creating calls
      exact (creating_triple calls world inv creating).mono (fun _ _ _ _ => trivial) (fun _ _ _ _ => trivial) inv
    cases job with
    | create command =>
        cases started
        exact neutral_safe kept (batch.creating silent) ((create_calls command).mono (fun _ => undelivering_create))
    | process command =>
        cases started
        exact neutral_safe kept (batch.creating silent) ((process_calls command).mono (fun _ => undelivering_process))
    | get query =>
        cases started
        exact neutral_safe kept (batch.creating silent) ((get_calls query).mono (fun _ => undelivering_get))
    | deliver batch_size concurrency =>
        cases started
        exact deliver_triple batch_size concurrency state kept ⟨silent, batch⟩
    | outbox settings cycles =>
        have same : after = state := by
          have started : start deployment (.outbox settings cycles) run state = some after := started
          rcases start_cases started with same | ⟨_, _, impossible, _⟩
          · exact same
          · cases impossible
        subst same
        exact neutral_safe kept (batch.creating silent)
          ((outbox_calls settings run 0 cycles).mono (fun _ => undelivering_outbox))
    | consume settings message =>
        have started : start deployment (.consume settings message) run state = some after := started
        have creating : Creating run after := by
          rcases start_cases started with same | ⟨_, message', _, _, same⟩
          · subst same
            exact batch.creating silent
          · subst same
            refine ⟨⟨silent.idle, fun key => ?_⟩, fun key => .apart (batch.apart key (by simp))⟩
            have sends : sends_of run key (deliver run message' state).trace = sends_of run key state.trace :=
              sends_of_run
            rw [sends]
            exact silent.unsent key
        exact neutral_safe kept' creating ((consume_calls settings message).mono (fun _ => undelivering_consume))

/-! ## The bookkeeping of the deliveries -/

/-- A committed delivery, and the sends of it that have been committed, newest first. -/
structure Bookkeeping (policy : RetryPolicy) (row : WebhookDeliveryModel) (outcomes : List ClientOutcome) : Prop where
  bounds : 1 ≤ row.attempt ∧ (row.attempt : Int) ≤ policy.max_attempts
  pending : row.status = .PENDING -> outcomes.length + 1 = row.attempt ∧
    (forall outcome, outcome ∈ outcomes -> SendFails outcome) ∧
    (1 < row.attempt -> DueAfter policy row.updated_at ((row.attempt : Rat) - 1) row.next_retry_at)
  succeeded : row.status = .SUCCESS -> Exists fun last => Exists fun earlier => outcomes = last :: earlier ∧
    SendSucceeds last ∧ earlier.length + 1 = row.attempt ∧ forall outcome, outcome ∈ earlier -> SendFails outcome
  failed : row.status = .FAILED -> (outcomes.length : Int) = policy.max_attempts ∧
    (row.attempt : Int) = policy.max_attempts ∧ forall outcome, outcome ∈ outcomes -> SendFails outcome
  unscheduled : row.status ≠ .PENDING -> row.next_retry_at = none

theorem Booked.bookkeeping {row : WebhookDeliveryModel} {outcomes : List ClientOutcome}
    (booked : Booked policy row outcomes) : Bookkeeping policy row outcomes where
  bounds := booked.bounds
  pending := by
    intro pending
    cases booked with
    | created _ first => exact ⟨first.symm, (fun _ listed => by cases listed), fun later => by omega⟩
    | scheduled _ _ _ next _ failed due =>
        refine ⟨next.symm, failed, fun _ => ?_⟩
        rw [next, Nat.cast_add, Nat.cast_one, add_sub_cancel_right]
        exact due
    | succeeded _ _ success =>
        rw [pending] at success
        cases success
    | exhausted _ failure =>
        rw [pending] at failure
        cases failure
  succeeded := by
    intro success
    cases booked with
    | created pending =>
        rw [success] at pending
        cases pending
    | scheduled _ _ pending =>
        rw [success] at pending
        cases pending
    | succeeded last earlier _ number _ accepts failed => exact ⟨last, earlier, rfl, accepts, number.symm, failed⟩
    | exhausted _ failure =>
        rw [success] at failure
        cases failure
  failed := by
    intro failure
    cases booked with
    | created pending =>
        rw [failure] at pending
        cases pending
    | scheduled _ _ pending =>
        rw [failure] at pending
        cases pending
    | succeeded _ _ success =>
        rw [failure] at success
        cases success
    | exhausted _ _ number limit failed => exact ⟨number ▸ limit, limit, failed⟩
  unscheduled := booked.unscheduled

/-- A claim returns pending deliveries only. -/
theorem due_pending (keyed : World.Keyed world) (away : Away .webhook_deliveries run world) {now : Datetime} {limit : Int}
    {rows : List WebhookDeliveryModel}
    (executed : World.Executed run world (.select_for_update .webhook_deliveries (.due_deliveries now) limit) after
      (.ok rows)) {row : WebhookDeliveryModel} (listed : row ∈ rows) :
    (world.cell .webhook_deliveries row.id).committed = some row ∧ row.status = .PENDING := by
  cases executed with
  | locked =>
      rcases Table.mem_updateClaimable_rows.mp listed with ⟨key, old, claimed, same⟩
      have same : old = row := same
      subst same
      rcases Table.mem_claimable claimed with ⟨seen, selected, _⟩
      have own : old.id = key := keyed .webhook_deliveries key old (Cell.carries_of_visible seen)
      subst own
      have free : ¬ ((world.tables .webhook_deliveries).cell old.id).HeldBy run := away old.id
      rw [Cell.visible_of_not_heldBy free] at seen
      have ready : (decide (old.status = .PENDING) && retry_is_due old.next_retry_at now) = true := selected
      rw [Bool.and_eq_true, decide_eq_true_eq] at ready
      exact ⟨seen, ready.1⟩

/-- Every committed delivery counts its committed sends, whatever was rolled
back in between, and one that has ended stays as it is and is not claimed. -/
theorem deliveries_bookkept {state : (service deployment).State}
    (reached : Machine.Reachable (fun _ _ => True) World.initial state) {key : UUID} {row : WebhookDeliveryModel}
    (found : (state.shared.cell .webhook_deliveries key).committed = some row) :
    Bookkeeping deployment.retry_policy row (committed_sends key state.shared.trace) ∧
      (committed_sends key state.shared.trace ≠ [] -> Exists fun run => Registered run row.to_domain state.shared) ∧
      (row.status ≠ .PENDING -> forall later : (service deployment).State, Machine.Path (fun _ _ => True) state later ->
        (later.shared.cell .webhook_deliveries key).committed = some row ∧
          forall run now limit choice after rows,
            later.pending run = some (.select_for_update .webhook_deliveries (.due_deliveries now) limit) ->
            World.exec run (.select_for_update .webhook_deliveries (.due_deliveries now) limit) choice later.shared =
              some (after, .ok rows) ->
            forall other : WebhookDeliveryModel, other ∈ rows -> other.id ≠ key) := by
  have kept := (delivery_verified deployment).invariant reached
  refine ⟨(kept.booked key row found).bookkeeping, kept.registered key row found, fun ended later path => ?_⟩
  have stays := ((delivery_verified deployment).evolves reached path).ended key row found ended
  refine ⟨stays, fun run now limit choice after rows pending ran other listed same => ?_⟩
  rcases Machine.State.running_of_pending pending with ⟨job, next, running⟩
  have permits := (delivery_verified deployment).permitted (reached.trans path) running
  have keyed := ((delivery_verified deployment).invariant (reached.trans path)).keyed
  rcases due_pending keyed (permits.selecting _ _ rfl).1 (World.exec_executed ran)
    listed with ⟨committed, waiting⟩
  rw [same, stays] at committed
  cases committed
  exact ended waiting

/-! ### A batch of two deliveries -/

/-- Operations of a run that all succeed, with the clock and the identifier of each. -/
def calmly (run : RunId) (times : List (Datetime × UUID)) : List (service sample_deployment).Action :=
  times.map (fun entry => .perform run (.calm entry.1 entry.2))

def placing (run payment_id event_id : Nat) (idempotency_key : String) : List (service sample_deployment).Action :=
  .start run (.create { five_euros with idempotency_key := idempotency_key }) ::
    calmly run [(10, 0), (10, payment_id), (10, 0), (10, event_id), (10, 0), (10, 0), (10, 0)]

def finishing (run payment_id attempt_id delivery_id : Nat) : List (service sample_deployment).Action :=
  .start run (.process ⟨payment_id, none⟩) :: calmly run [(20, 0), (20, 0), (20, 0), (20, 0), (20, attempt_id), (20, 0),
    (20, 0), (30, 0), (30, 0), (30, 0), (30, 0), (30, delivery_id), (30, 0), (30, 0), (30, 0)]

/-- Two payments have ended, with the deliveries 4 and 8. -/
def two_deliveries : List (service sample_deployment).Action :=
  placing 0 1 2 "order-1" ++ finishing 1 1 3 4 ++ placing 2 5 6 "order-2" ++ finishing 3 5 7 8

/-- A batch claims both deliveries and starts both sends. -/
def sending_both (run : RunId) : List (service sample_deployment).Action :=
  .start run (.deliver 10 10) :: calmly run [(40, 0), (40, 0), (40, 0), (40, 0), (40, 0)] ++
    [.env (.start_send run 0), .env (.start_send run 1)]

/-- Delivery 4 is accepted and delivery 8 is refused, and the batch commits. -/
def one_refused : List (service sample_deployment).Action :=
  [.env (.finish_send 10 1 (.response 200 "")), .env (.finish_send 10 0 (.response 500 ""))] ++
    calmly 10 [(50, 0), (50, 0), (50, 0), (51, 0), (51, 0), (52, 0), (52, 0)]

theorem refused_delivery_bookkept :
    Exists fun state : (service sample_deployment).State => Exists fun row =>
      (state.shared.cell .webhook_deliveries 8).committed = some row ∧ row.status = .PENDING ∧ row.attempt = 2 ∧
        Bookkeeping sample_deployment.retry_policy row (committed_sends 8 state.shared.trace) := by
  have refused : (Machine.runFrom (Machine.fresh World.initial) (two_deliveries ++ sending_both 10 ++ one_refused)).map
      (fun state => (state.shared.cell .webhook_deliveries 8).committed.map (fun row => (row.status, row.attempt))) =
      some (some (.PENDING, 2)) := by decide +kernel
  rcases Option.map_eq_some_iff.mp refused with ⟨state, ran, found⟩
  rcases Option.map_eq_some_iff.mp found with ⟨row, committed, same⟩
  have bookkept := (deliveries_bookkept (Machine.Path.of_runFrom _ ran) committed).1
  exact ⟨state, row, committed, congrArg Prod.fst same, congrArg Prod.snd same, bookkept⟩

/-! ## Isolated failures -/

/-- Each send of the batch has its own result committed, and the batch returns
if it has sent anything. -/
structure Isolated {X : Type} (policy : RetryPolicy) (run : RunId) (rest : Program X) (world : World) : Prop where
  results : forall key outcome, outcome ∈ sends_of run key world.trace ->
    ResultCommitted policy run key outcome world.trace
  completes : (forall key, sends_of run key world.trace = []) ∨ Exists fun value => rest = .ret value

/-- An isolated batch that has sent something has committed. -/
theorem Isolated.commits {X : Type} {rest : Program X} (isolated : Isolated policy run rest world)
    (sent : outcome ∈ sends_of run key world.trace) : Exists fun record => .committed record ∈ world.own run := by
  rcases (isolated.results key outcome sent).listed with ⟨record, listed⟩
  exact ⟨record, own_mem.mpr listed⟩

end Properties
end Payments
