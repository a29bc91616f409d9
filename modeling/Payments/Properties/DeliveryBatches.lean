import Payments.Properties.DeliveryDiscipline
import Payments.System.Transactions

namespace Payments
namespace Properties

open Concurrency Domain Infrastructure Application Prog UnitOfWork Payments.System
open DeliverDueWebhooksHandler (recorded)

/-!
# The runs of the webhook worker

A batch is followed from its claim to its commit.  Between the claim and the
commit it holds exactly the rows that it has claimed.  After the sends every
row waits for its result to be recorded, and the recording of one row moves it
from the rows that wait to those that may be committed.  What a batch that
raises leaves behind is one of four cases: somebody has interrupted it, it has
not sent anything, the answer of one of its sends cannot be kept, or there is no
time for the next attempt.
-/

variable {deployment : Deployment} {policy : RetryPolicy} {world after : World} {run : RunId} {op : Op}
  {key : UUID}

/-! ## Runs that deliver nothing -/

/-- The run has sent nothing and sends nothing. -/
structure SendsNothing (run : RunId) (world : World) : Prop where
  idle : (world.sending run).tasks = []
  unsent : forall key, sends_of run key world.trace = []

/-- What a run that delivers nothing may hold of the deliveries. -/
inductive Addition (run : RunId) (key : UUID) (world : World) : Prop where
  | apart (free : ¬ (world.cell .webhook_deliveries key).HeldBy run)
  | created (row : WebhookDeliveryModel) (created : Created row)
      (vacant : (world.cell .webhook_deliveries key).committed = none)
      (locked : (world.cell .webhook_deliveries key).lock = some (run, some row))

structure Creating (run : RunId) (world : World) : Prop where
  silent : SendsNothing run world
  additions : forall key, Addition run key world

theorem SendsNothing.stable (silent : SendsNothing run world) (frame : DeliveryFrame run world after) :
    SendsNothing run after where
  idle := (tasks_untouched frame.untouched).mpr silent.idle
  unsent := by
    intro key
    rw [frame.sends silent.idle key]
    exact silent.unsent key

theorem Addition.stable (addition : Addition run key world) (untouched : World.Untouched run world after) :
    Addition run key after := by
  cases addition with
  | apart free =>
      refine .apart (fun held => free ?_)
      have same := lock_untouched untouched held
      exact same ▸ held
  | created row created vacant locked =>
      have same : after.cell .webhook_deliveries key = world.cell .webhook_deliveries key :=
        untouched.tables .webhook_deliveries key (.inl ⟨_, locked⟩)
      exact .created row created (same ▸ vacant) (same ▸ locked)

/-- An operation that neither claims nor sends nor records a delivery. -/
structure Undelivering (op : Op) : Prop where
  adding : forall row, op = .add .webhook_deliveries row -> Created row
  unselecting : forall query limit, op ≠ .select_for_update .webhook_deliveries query limit
  unupdating : forall statement, op ≠ .update .webhook_deliveries statement
  unclaiming : forall query limit statement, op ≠ .update_claimable .webhook_deliveries query limit statement
  unsending : forall requests concurrency, op ≠ .send_all requests concurrency

theorem SendsNothing.executed {answer : Except Error op.Answer} (silent : SendsNothing run world)
    (unsending : forall requests concurrency, op ≠ .send_all requests concurrency)
    (executed : World.Executed run world op after answer) : SendsNothing run after where
  idle := by
    cases sending_executed executed with
    | same same =>
        rw [same]
        exact silent.idle
    | started requests concurrency operation => exact absurd operation (unsending requests concurrency)
    | ended same =>
        rw [same]
        exact tasks_set_sending _
  unsent := by
    intro key
    rw [sends_executed executed]
    exact silent.unsent key

theorem Creating.executed {answer : Except Error op.Answer} (creating : Creating run world)
    (neutral : Undelivering op) (executed : World.Executed run world op after answer) : Creating run after where
  silent := creating.silent.executed neutral.unsending executed
  additions := by
    intro key
    cases executed.cell .webhook_deliveries key with
    | kept same =>
        cases creating.additions key with
        | apart free => exact .apart (same ▸ free)
        | created row created vacant locked => exact .created row created (same ▸ vacant) (same ▸ locked)
    | locked query limit row operation => exact absurd operation (neutral.unselecting query limit)
    | updated statement time row operation => exact absurd operation (neutral.unupdating statement)
    | claimed query limit statement time row operation =>
        exact absurd operation (neutral.unclaiming query limit statement)
    | deleted cutoff row operation table => cases table
    | added row operation own vacant same => exact .created row (neutral.adding row operation) (same ▸ rfl) (same ▸ rfl)
    | inserted row operation table => cases table
    | committed operation same => exact .apart (fun held => Cell.not_heldBy_commit (same ▸ held))
    | released operation same => exact .apart (fun held => Cell.not_heldBy_rollback (same ▸ held))

theorem Creating.committable (creating : Creating run world) (key : UUID) : Committable policy run key world := by
  cases creating.additions key with
  | apart free => exact .apart free (creating.silent.unsent key)
  | created row created vacant locked => exact .created row created vacant locked (creating.silent.unsent key)

theorem Creating.permits (creating : Creating run world) (neutral : Undelivering op) :
    DeliveryPermits policy run op world where
  adding := neutral.adding
  selecting := fun query limit operation => absurd operation (neutral.unselecting query limit)
  updating := fun statement operation => absurd operation (neutral.unupdating statement)
  unclaimed := neutral.unclaiming
  sending := fun requests concurrency operation => absurd operation (neutral.unsending requests concurrency)
  committing := fun _ => ⟨creating.silent.idle, creating.committable⟩
  ending := fun _ _ => creating.silent.idle

def not_delivering (run : RunId) : (delivery_discipline deployment).Assertion run where
  holds := Creating run
  stable := fun known rely _ =>
    ⟨known.silent.stable rely.1, fun key => (known.additions key).stable rely.1.untouched⟩

theorem creating_triple {X : Type} {program : Program X} (calls : program.OnlyCalls Undelivering) :
    (delivery_discipline deployment).Triple (not_delivering run) program (fun _ => not_delivering run)
      (fun _ => not_delivering run) :=
  Discipline.Triple.of_onlyCalls (not_delivering run) (fun _ neutral _ _ known => Creating.permits known neutral)
    (fun _ neutral _ _ _ _ _ known ran _ => Creating.executed known neutral (service_executed ran))
    (fun _ _ _ known => known) (fun _ _ _ known => known) calls

/-- The operations that concern the deliveries at all. -/
def concerns_deliveries : Op -> Bool
  | .add .webhook_deliveries _ => true
  | .select_for_update .webhook_deliveries _ _ => true
  | .update .webhook_deliveries _ => true
  | .update_claimable .webhook_deliveries _ _ _ => true
  | .send_all _ _ => true
  | _ => false

theorem undelivering_of_unconcerned (unconcerned : concerns_deliveries op = false) : Undelivering op where
  adding := by
    rintro row rfl
    cases unconcerned
  unselecting := by
    rintro query limit rfl
    cases unconcerned
  unupdating := by
    rintro statement rfl
    cases unconcerned
  unclaiming := by
    rintro query limit statement rfl
    cases unconcerned
  unsending := by
    rintro requests concurrency rfl
    cases unconcerned

theorem undelivering_scope (calls : ScopeCalls op) : Undelivering op := by
  cases calls <;> exact undelivering_of_unconcerned rfl

theorem undelivering_create (calls : CreateCalls op) : Undelivering op := by
  cases calls with
  | scope ends => exact undelivering_scope ends
  | _ => exact undelivering_of_unconcerned rfl

theorem undelivering_process (calls : ProcessCalls op) : Undelivering op := by
  cases calls with
  | scope ends => exact undelivering_scope ends
  | add_delivery id payment_id event_type correlation_id created_at =>
      refine ⟨fun row same => ?_, by simp, by simp, by simp, by simp⟩
      cases same
      exact ⟨id, payment_id, event_type, correlation_id, created_at, rfl⟩
  | _ => exact undelivering_of_unconcerned rfl

theorem undelivering_get (calls : GetCalls op) : Undelivering op := by
  cases calls with
  | scope ends => exact undelivering_scope ends
  | _ => exact undelivering_of_unconcerned rfl

theorem undelivering_outbox (calls : OutboxCalls op) : Undelivering op := by
  cases calls with
  | scope ends => exact undelivering_scope ends
  | _ => exact undelivering_of_unconcerned rfl

theorem undelivering_consume (calls : ConsumeCalls op) : Undelivering op := by
  cases calls with
  | process calls => exact undelivering_process calls
  | _ => exact undelivering_of_unconcerned rfl

/-! ## Ends of a batch -/

/-- The answer becomes a result that the database can keep. -/
def Recordable (outcome : ClientOutcome) : Prop :=
  Exists fun result => send outcome = .ok result ∧ result.body.all str_storable = true

/-- What `gather` has returned and waits to be recorded, and what was taken up for
recording, with the time that the clock has shown.  Newest first. -/
structure Recordings where
  queue : List (WebhookDelivery × WebhookSendResult)
  taken : List (WebhookDelivery × WebhookSendResult × Datetime)

/-- The results of the payments that were there. -/
def sent_results (results : List (WebhookDelivery × Option WebhookSendResult)) :
    List (WebhookDelivery × WebhookSendResult) :=
  results.filterMap (fun entry => entry.2.map (fun result => (entry.1, result)))

/-- After the sends the clock is read once for each result, in their order. -/
def recordings : List Event -> Recordings
  | [] => ⟨[], []⟩
  | .gathered results :: earlier => ⟨sent_results results, (recordings earlier).taken⟩
  | .clock_read now :: earlier =>
      match (recordings earlier).queue with
      | [] => recordings earlier
      | (delivery, result) :: waiting => ⟨waiting, (delivery, result, now) :: (recordings earlier).taken⟩
  | _ :: earlier => recordings earlier

/-- There was a time for the next attempt wherever one was to be made. -/
def Scheduled (policy : RetryPolicy) (events : List Event) : Prop :=
  forall delivery result now, (delivery, result, now) ∈ (recordings events).taken ->
    Schedulable policy delivery result now

/-- Somebody has interrupted the run: the database has failed, or the run was cancelled. -/
def Interrupted (raised : Error) : Prop :=
  raised = .infrastructure ∨ raised = .cancelled

theorem interrupted_error (interruption : Interruption) : Interrupted interruption.error := by
  cases interruption with
  | failed => exact .inl rfl
  | cancelled => exact .inr rfl

/-- Why a batch has raised. -/
inductive Collapse (policy : RetryPolicy) (run : RunId) (raised : Error) (world : World) : Prop where
  | interrupted (outside : Interrupted raised)
  | unsent (silent : SendsNothing run world) (unrecorded : recordings (world.own run) = ⟨[], []⟩)
  | spoiled (key : UUID) (outcome : ClientOutcome) (sent : outcome ∈ sends_of run key world.trace)
      (unrecordable : ¬ Recordable outcome) (uncommitted : forall record, .committed record ∉ world.own run)
  | unscheduled (key : UUID) (outcome : ClientOutcome) (sent : outcome ∈ sends_of run key world.trace)
      (unscheduled : ¬ Scheduled policy (world.own run)) (uncommitted : forall record, .committed record ∉ world.own run)

theorem Collapse.stable {raised : Error} (collapse : Collapse policy run raised world)
    (frame : DeliveryFrame run world after) (grown : world.trace <:+ after.trace) : Collapse policy run raised after := by
  cases collapse with
  | interrupted outside => exact .interrupted outside
  | unsent silent unrecorded => exact .unsent (silent.stable frame) (frame.untouched.own ▸ unrecorded)
  | spoiled key outcome sent unrecordable uncommitted =>
      refine .spoiled key outcome (mem_sends_of.mpr (grown.subset (mem_sends_of.mp sent))) unrecordable ?_
      rw [frame.untouched.own]
      exact uncommitted
  | unscheduled key outcome sent unscheduled uncommitted =>
      have own := frame.untouched.own
      exact .unscheduled key outcome (mem_sends_of.mpr (grown.subset (mem_sends_of.mp sent))) (own ▸ unscheduled)
        (own ▸ uncommitted)

def collapsed (run : RunId) (raised : Error) : (delivery_discipline deployment).Assertion run where
  holds := fun world => (Converted world.trace -> (world.sending run).tasks = []) ∧
    Collapse deployment.retry_policy run raised world
  stable := fun known rely _ =>
    ⟨fun converted => (tasks_untouched rely.1.untouched).mpr (known.1 (converted.mono rely.2.trace)),
      known.2.stable rely.1 rely.2.trace⟩

theorem collapsed_of_silent {raised : Error} (silent : SendsNothing run world)
    (unrecorded : recordings (world.own run) = ⟨[], []⟩) : @collapsed deployment run raised world :=
  ⟨fun _ => silent.idle, .unsent silent unrecorded⟩

/-- A statement of a session that accepts statements is interrupted, or it executes. -/
theorem statement_raised {X : Type} {choice : Choice} {execute : Option (World × Except Error X)} {raised : Error}
    (accepting : world.refusing run = false)
    (ran : World.statement run choice world execute = some (after, .error raised)) :
    (after = world ∧ Interrupted raised) ∨ execute = some (after, .error raised) := by
  rw [World.statement, if_neg (by rw [accepting]; simp)] at ran
  split at ran
  · next interruption _ =>
      cases ran
      exact .inl ⟨rfl, interrupted_error interruption⟩
  · exact .inr ran

/-- An operation that adds nothing to what is sent and ends no transaction is permitted at any time. -/
theorem permits_of_unconcerned (unconcerned : concerns_deliveries op = false) (not_commit : op ≠ .commit)
    (not_rollback : op ≠ .rollback) (not_close : op ≠ .close) : DeliveryPermits policy run op world where
  adding := (undelivering_of_unconcerned unconcerned).adding
  selecting := fun query limit operation =>
    absurd operation ((undelivering_of_unconcerned unconcerned).unselecting query limit)
  updating := fun statement operation => absurd operation ((undelivering_of_unconcerned unconcerned).unupdating statement)
  unclaimed := (undelivering_of_unconcerned unconcerned).unclaiming
  sending := fun requests concurrency operation =>
    absurd operation ((undelivering_of_unconcerned unconcerned).unsending requests concurrency)
  committing := fun operation => absurd operation not_commit
  ending := fun operation => absurd operation (fun either => either.elim not_rollback not_close)

/-- A run without send tasks may end its transaction in any way but a commit. -/
theorem permits_of_ending (ends : op = .rollback ∨ op = .close)
    (idle : Converted world.trace -> (world.sending run).tasks = []) : DeliveryPermits policy run op world := by
  rcases ends with rfl | rfl
  · exact ⟨by simp, by simp, by simp, by simp, by simp, by simp, fun _ => idle⟩
  · exact ⟨by simp, by simp, by simp, by simp, by simp, by simp, fun _ => idle⟩

/-! ## The claim of a batch -/

/-- The run has locked these deliveries and no other ones, and it has committed nothing. -/
structure DeliveryBatch (run : RunId) (deliveries : List WebhookDelivery) (world : World) : Prop where
  nodup : (deliveries.map WebhookDelivery.id).Nodup
  locks : forall delivery, delivery ∈ deliveries -> Locks run (WebhookDeliveryModel.to_model delivery) world
  due : forall delivery, delivery ∈ deliveries -> DueFor run (WebhookDeliveryModel.to_model delivery) world
  apart : forall key, key ∉ deliveries.map WebhookDelivery.id -> ¬ (world.cell .webhook_deliveries key).HeldBy run
  accepting : world.refusing run = false
  uncommitted : forall record, .committed record ∉ world.own run
  unrecorded : recordings (world.own run) = ⟨[], []⟩

theorem DeliveryBatch.stable {deliveries : List WebhookDelivery} (batch : DeliveryBatch run deliveries world)
    (untouched : World.Untouched run world after) : DeliveryBatch run deliveries after where
  nodup := batch.nodup
  locks := fun delivery listed => (batch.locks delivery listed).stable untouched
  due := fun delivery listed => (batch.due delivery listed).mono (untouched.own ▸ List.Subset.refl _)
  apart := by
    intro key absent held
    have same := lock_untouched untouched held
    exact batch.apart key absent (same ▸ held)
  accepting := untouched.refusing.trans batch.accepting
  uncommitted := by
    rw [untouched.own]
    exact batch.uncommitted
  unrecorded := (congrArg recordings untouched.own).trans batch.unrecorded

/-- The run has sent nothing yet. -/
def claimed (run : RunId) (deliveries : List WebhookDelivery) : (delivery_discipline deployment).Assertion run where
  holds := fun world => SendsNothing run world ∧ DeliveryBatch run deliveries world
  stable := fun known rely _ => ⟨known.1.stable rely.1, known.2.stable rely.1.untouched⟩

def clocked (run : RunId) (now : Datetime) : (delivery_discipline deployment).Assertion run where
  holds := fun world => (SendsNothing run world ∧ DeliveryBatch run [] world) ∧ .clock_read now ∈ world.own run
  stable := fun known rely _ => ⟨⟨known.1.1.stable rely.1, known.1.2.stable rely.1.untouched⟩,
    rely.1.untouched.own ▸ known.2⟩

theorem DeliveryBatch.creating (batch : DeliveryBatch run [] world) (silent : SendsNothing run world) : Creating run world :=
  ⟨silent, fun key => .apart (batch.apart key (by simp))⟩

theorem opening_triple :
    (delivery_discipline deployment).Triple (claimed run []) (await .now) (fun now => clocked run now)
      (collapsed run) := by
  refine Discipline.Triple.perform (fun _ _ _ => permits_of_unconcerned rfl (by simp) (by simp) (by simp))
    (fun world choice after now _ known ran _ _ => ?_) (fun world choice after raised _ known ran _ _ => ?_)
  · rcases known with ⟨silent, batch⟩
    have executed := service_executed ran
    have silent' : SendsNothing run after := silent.executed (by simp) executed
    cases executed with
    | now =>
        have own : (World.note (.run run) (.clock_read now) world).own run = .clock_read now :: world.own run :=
          World.own_note_self _
        refine ⟨⟨silent', ?_⟩, own ▸ List.mem_cons_self⟩
        refine ⟨List.nodup_nil, (fun _ listed => by cases listed), (fun _ listed => by cases listed), batch.apart,
          batch.accepting, fun record => ?_, ?_⟩
        · rw [own, List.mem_cons, not_or]
          exact ⟨(fun impossible => by cases impossible), batch.uncommitted record⟩
        · rw [own, recordings, batch.unrecorded]
  · cases ran

/-- `FOR UPDATE SKIP LOCKED` locks the due deliveries it returns, as they are committed. -/
theorem claim_due_locks (keyed : World.Keyed world) {now : Datetime} {limit : Nat} {rows : List WebhookDeliveryModel}
    {table : Table UUID WebhookDeliveryModel RunId} (silent : SendsNothing run world) (batch : DeliveryBatch run [] world)
    (clock : .clock_read now ∈ world.own run)
    (selected : (world.tables .webhook_deliveries).selectForUpdate run (Query.due_deliveries now).condition
      (Query.due_deliveries now).before limit = (table, rows)) :
    SendsNothing run (world.set_table .webhook_deliveries table) ∧
      DeliveryBatch run (rows.map WebhookDeliveryModel.to_domain) (world.set_table .webhook_deliveries table) := by
  have claimed_keys : forall entry, entry ∈ (world.tables .webhook_deliveries).claimable run
      (Query.due_deliveries now).condition (Query.due_deliveries now).before limit ->
      WebhookDeliveryModel.id entry.2 = entry.1 := by
    intro entry listed
    exact keyed .webhook_deliveries entry.1 entry.2 (Cell.carries_of_visible (Table.mem_claimable listed).1)
  have returned : rows = ((world.tables .webhook_deliveries).claimable run (Query.due_deliveries now).condition
      (Query.due_deliveries now).before limit).map Prod.snd := (Prod.mk.inj selected).2.symm
  have ids : (rows.map WebhookDeliveryModel.to_domain).map WebhookDelivery.id =
      ((world.tables .webhook_deliveries).claimable run (Query.due_deliveries now).condition
        (Query.due_deliveries now).before limit).map Prod.fst := by
    rw [returned, List.map_map, List.map_map]
    exact List.map_congr_left claimed_keys
  have cells : forall key, (world.set_table .webhook_deliveries table).cell .webhook_deliveries key =
      ((world.tables .webhook_deliveries).updateClaimable run (Query.due_deliveries now).condition
        (Query.due_deliveries now).before limit id).1.cell key := by
    intro key
    rw [World.cell_set_table_self, ← (Prod.mk.inj selected).1]
    rfl
  have locks : forall row, row ∈ rows -> Locks run row (world.set_table .webhook_deliveries table) ∧
      retry_is_due row.next_retry_at now = true := by
    intro row listed
    rw [returned] at listed
    rcases List.mem_map.mp listed with ⟨⟨key, found⟩, member, same⟩
    have same : found = row := same
    subst same
    have own : found.id = key := claimed_keys _ member
    rcases Table.mem_claimable member with ⟨seen, ready, _⟩
    have ready : (decide (found.status = .PENDING) && retry_is_due found.next_retry_at now) = true := ready
    rw [Bool.and_eq_true, decide_eq_true_eq] at ready
    have free : ¬ ((world.tables .webhook_deliveries).cell key).HeldBy run := batch.apart key (by simp)
    rw [Cell.visible_of_not_heldBy free] at seen
    subst own
    have written : (world.set_table .webhook_deliveries table).cell .webhook_deliveries found.id =
        ((world.tables .webhook_deliveries).cell found.id).write run (some found) := by
      rw [cells]
      rcases Table.updateClaimable_cell run (Query.due_deliveries now).condition (Query.due_deliveries now).before limit
        id (world.tables .webhook_deliveries) found.id with ⟨_, absent⟩ | ⟨other, listed', same⟩
      · exact absurd member (absent found)
      · have visible := (Table.mem_claimable listed').1
        rw [Cell.visible_of_not_heldBy free, seen] at visible
        cases visible
        exact same
    exact ⟨⟨(congrArg Cell.committed written).trans seen, congrArg Cell.lock written, ready.1⟩, ready.2⟩
  refine ⟨⟨silent.idle, silent.unsent⟩, ?_⟩
  refine ⟨ids ▸ Table.claimable_nodup _ _ _ _ _, ?_, ?_, ?_, batch.accepting, batch.uncommitted,
    batch.unrecorded⟩
  · intro delivery listed
    rcases List.mem_map.mp listed with ⟨row, member, rfl⟩
    exact (locks row member).1
  · intro delivery listed
    rcases List.mem_map.mp listed with ⟨row, member, rfl⟩
    exact ⟨now, clock, (locks row member).2⟩
  · intro key absent
    rw [cells]
    rcases Table.updateClaimable_cell run (Query.due_deliveries now).condition (Query.due_deliveries now).before limit
      id (world.tables .webhook_deliveries) key with ⟨same, _⟩ | ⟨row, listed, _⟩
    · rw [same]
      exact batch.apart key (by simp)
    · refine absurd ?_ absent
      rw [ids]
      exact List.mem_map.mpr ⟨_, listed, rfl⟩

theorem claim_due_triple (batch_size : Int) (now : Datetime) :
    (delivery_discipline deployment).Triple (clocked run now)
      (SqlAlchemyWebhookDeliveryRepository.claim_due batch_size now) (fun deliveries => claimed run deliveries)
      (collapsed run) := by
  have selected : (delivery_discipline deployment).Triple (clocked run now)
      (await (.select_for_update .webhook_deliveries (.due_deliveries now) batch_size))
      (fun (rows : List WebhookDeliveryModel) => claimed run (rows.map WebhookDeliveryModel.to_domain))
      (collapsed run) := by
    refine Discipline.Triple.perform (fun world _ known => ?_) (fun world choice after rows kept known ran _ _ => ?_)
      (fun world choice after raised _ known ran _ _ => ?_)
    · rcases known with ⟨⟨silent, batch⟩, _⟩
      refine ⟨by simp, fun _ _ _ => ⟨fun key => batch.apart key (by simp), silent.idle⟩, by simp, by simp, by simp,
        by simp, by simp⟩
    · rcases known with ⟨⟨silent, batch⟩, clock⟩
      cases service_executed ran with
      | locked => exact claim_due_locks kept.keyed silent batch clock rfl
    · cases service_executed ran with
      | raised => exact collapsed_of_silent known.1.1 known.1.2.unrecorded
  exact Discipline.Triple.bind selected (fun _ => Discipline.Triple.ret (fun _ _ known => known))

/-! ## The sends of a batch -/

/-- Loading the payments is all that happens before the sends. -/
theorem loading_calls (deliveries : List WebhookDelivery) (payments : DeliverDueWebhooksHandler.LoadedPayments) :
    (DeliverDueWebhooksHandler.load_payments deliveries payments).OnlyCalls
      (fun op : Op => Exists fun payment_id => op = .select .payments (.payment_by_id payment_id)) := by
  induction deliveries generalizing payments with
  | nil => exact OnlyCalls.ret _
  | cons delivery rest inductionHypothesis =>
      rw [DeliverDueWebhooksHandler.load_payments]
      split
      · exact inductionHypothesis payments
      · exact OnlyCalls.bind (get_payment_calls ⟨_, rfl⟩) (fun _ => inductionHypothesis _)

theorem load_payments_triple (deliveries : List WebhookDelivery) :
    (delivery_discipline deployment).Triple (claimed run deliveries)
      (DeliverDueWebhooksHandler.load_payments deliveries []) (fun _ => claimed run deliveries) (collapsed run) := by
  refine Discipline.Triple.of_onlyCalls (claimed run deliveries) ?_ ?_ (fun _ _ _ known => known)
    (fun raised world _ known => collapsed_of_silent known.1 known.2.unrecorded) (loading_calls deliveries [])
  · rintro op ⟨payment_id, rfl⟩ world _ _
    exact permits_of_unconcerned rfl (by simp) (by simp) (by simp)
  · rintro op ⟨payment_id, rfl⟩ world choice after answer _ known ran _
    cases service_executed ran with
    | raised => exact known
    | selected => exact known

/-- The deliveries of the batch are being sent. -/
def sending (run : RunId) (deliveries : List WebhookDelivery) : (delivery_discipline deployment).Assertion run where
  holds := fun world => DeliveryBatch run deliveries world ∧
    (world.sending run).tasks.map SendTask.delivery = deliveries
  stable := by
    rintro before after ⟨batch, tasks⟩ rely _
    refine ⟨batch.stable rely.1.untouched, ?_⟩
    rw [← tasks]
    have advances := rely.1.untouched.sending.tasks
    generalize (before.sending run).tasks = earlier at advances
    generalize (after.sending run).tasks = later at advances
    induction advances with
    | nil => rfl
    | cons head _ inductionHypothesis => rw [List.map_cons, List.map_cons, head.delivery, inductionHypothesis]

theorem request_described (payments : DeliverDueWebhooksHandler.LoadedPayments) (delivery : WebhookDelivery) :
    Described (delivery, DeliverDueWebhooksHandler.request payments delivery) := by
  intro posted same
  rcases Option.map_eq_some_iff.mp same with ⟨payment, _, requested⟩
  exact ⟨payment, requested.symm⟩

theorem send_all_triple (deliveries : List WebhookDelivery) (payments : DeliverDueWebhooksHandler.LoadedPayments)
    (concurrency : Int) :
    (delivery_discipline deployment).Triple (claimed run deliveries)
      (await (.send_all (deliveries.map (fun delivery =>
        (delivery, DeliverDueWebhooksHandler.request payments delivery))) concurrency))
      (fun _ => sending run deliveries) (collapsed run) := by
  refine Discipline.Triple.perform (fun world _ known => ?_) (fun world choice after value _ known ran _ _ => ?_)
    (fun world choice after raised _ known ran _ _ => ?_)
  · rcases known with ⟨silent, batch⟩
    refine ⟨by simp, by simp, by simp, by simp, ?_, by simp, by simp⟩
    intro requests concurrency' same
    cases same
    refine ⟨?_, silent.unsent, fun request listed => ?_⟩
    · rw [List.map_map]
      exact batch.nodup
    · rcases List.mem_map.mp listed with ⟨delivery, member, rfl⟩
      exact ⟨request_described payments delivery, _, rfl, batch.locks delivery member, batch.due delivery member⟩
  · rcases known with ⟨silent, batch⟩
    cases service_executed ran with
    | sends_started requests concurrency' =>
        refine ⟨⟨batch.nodup, ?_, batch.due, batch.apart, batch.accepting, batch.uncommitted, batch.unrecorded⟩, ?_⟩
        · intro delivery listed
          have locks := batch.locks delivery listed
          exact ⟨locks.committed, locks.locked, locks.pending⟩
        · rw [tasks_set_sending, List.map_map, List.map_map]
          exact List.map_id' _
  · cases service_executed ran with
    | raised => exact collapsed_of_silent known.1 known.2.unrecorded

/-- What the sends of a delivery have answered, if it was sent at all. -/
def Replies (result : Option WebhookSendResult) (outcomes : List ClientOutcome) : Prop :=
  match result with
  | none => outcomes = []
  | some result => Exists fun outcome => outcomes = [outcome] ∧ send outcome = .ok result

/-- The results of a batch are those of its tasks, in order. -/
theorem send_results {tasks : List SendTask} {results : List (WebhookDelivery × Option WebhookSendResult)}
    (ended : tasks.mapM World.send_result = some results) :
    results.map Prod.fst = tasks.map SendTask.delivery ∧ forall result, result ∈ results ->
      Exists fun task => Exists fun outcome => task ∈ tasks ∧ task.delivery = result.1 ∧
        task.state = .finished outcome ∧ World.sent outcome = .ok result.2 := by
  induction tasks generalizing results with
  | nil =>
      cases ended
      exact ⟨rfl, fun result listed => by cases listed⟩
  | cons task tasks inductionHypothesis =>
      rw [List.mapM_cons] at ended
      rcases Option.bind_eq_some_iff.mp ended with ⟨result, first, ended⟩
      rcases Option.bind_eq_some_iff.mp ended with ⟨rest, others, same⟩
      cases same
      rcases inductionHypothesis others with ⟨deliveries, members⟩
      have head : Exists fun outcome => task.delivery = result.1 ∧ task.state = .finished outcome ∧
          World.sent outcome = .ok result.2 := by
        unfold World.send_result at first
        split at first
        · next outcome state =>
            split at first
            · next value answered =>
                cases first
                exact ⟨outcome, rfl, state, answered⟩
            · cases first
        · cases first
      rcases head with ⟨outcome, delivery, state, answered⟩
      constructor
      · rw [List.map_cons, List.map_cons, deliveries, delivery]
      · intro found listed
        rcases List.mem_cons.mp listed with rfl | listed
        · exact ⟨task, outcome, List.mem_cons_self, delivery, state, answered⟩
        · rcases members found listed with ⟨other, outcome', member, known⟩
          exact ⟨other, outcome', List.mem_cons_of_mem _ member, known⟩

theorem replies_of_sent {outcome : Option ClientOutcome} {result : Option WebhookSendResult}
    (answered : World.sent outcome = .ok result) : Replies result outcome.toList := by
  cases outcome with
  | none =>
      cases answered
      rfl
  | some outcome =>
      cases sent : send outcome with
      | error error =>
          simp only [World.sent, sent] at answered
          cases answered
      | ok found =>
          simp only [World.sent, sent] at answered
          cases answered
          exact ⟨outcome, rfl, sent⟩

/-! ## The results of a batch -/

/-- A delivery that waits for its result to be recorded. -/
structure Unrecorded (run : RunId) (entry : WebhookDelivery × Option WebhookSendResult) (world : World) : Prop where
  locks : Locks run (WebhookDeliveryModel.to_model entry.1) world
  replies : Replies entry.2 (sends_of run entry.1.id world.trace)

/-- These results are still to be recorded; everything else may be committed. -/
structure Recording (policy : RetryPolicy) (run : RunId)
    (results : List (WebhookDelivery × Option WebhookSendResult)) (world : World) : Prop where
  idle : (world.sending run).tasks = []
  nodup : (results.map (fun entry => entry.1.id)).Nodup
  waiting : forall entry, entry ∈ results -> Unrecorded run entry world
  others : forall key, key ∉ results.map (fun entry => entry.1.id) -> Committable policy run key world
  accepting : world.refusing run = false
  uncommitted : forall record, .committed record ∉ world.own run

/-- A row that stays as it is may still be committed. -/
theorem Committable.follow (committable : Committable policy run key world)
    (cell : after.cell .webhook_deliveries key = world.cell .webhook_deliveries key)
    (sends : sends_of run key after.trace = sends_of run key world.trace)
    (grown : Exists fun newer => after.own run = newer ++ world.own run) : Committable policy run key after := by
  cases committable with
  | apart free unsent => exact .apart (cell ▸ free) (sends.trans unsent)
  | kept row own locks unsent =>
      subst own
      exact .kept row rfl ⟨cell ▸ locks.committed, cell ▸ locks.locked, locks.pending⟩ (sends.trans unsent)
  | created row created vacant locked unsent =>
      exact .created row created (cell ▸ vacant) (cell ▸ locked) (sends.trans unsent)
  | recorded row own delivery records =>
      subst own
      exact .recorded row rfl delivery ⟨cell ▸ records.committed, cell ▸ records.locked, sends ▸ records.answered,
        records.registered.mono grown⟩

theorem Committable.stable (committable : Committable policy run key world) (frame : DeliveryFrame run world after)
    (idle : (world.sending run).tasks = []) : Committable policy run key after := by
  have sends := frame.sends idle key
  have grown : Exists fun newer => after.own run = newer ++ world.own run := ⟨[], frame.untouched.own⟩
  by_cases held : (world.cell .webhook_deliveries key).HeldBy run
  · exact committable.follow (frame.untouched.tables .webhook_deliveries key (.inl held)) sends grown
  · have free : ¬ (after.cell .webhook_deliveries key).HeldBy run := by
      intro later
      have same := lock_untouched frame.untouched later
      exact held (same ▸ later)
    cases committable with
    | apart _ unsent => exact .apart free (sends.trans unsent)
    | kept row own locks unsent =>
        subst own
        exact absurd ⟨_, locks.locked⟩ held
    | created row created vacant locked unsent => exact absurd ⟨_, locked⟩ held
    | recorded row own delivery records =>
        subst own
        exact absurd ⟨_, records.locked⟩ held

section

variable {results rest : List (WebhookDelivery × Option WebhookSendResult)} {delivery changed : WebhookDelivery}
  {result : WebhookSendResult} {now : Datetime}

theorem Recording.stable (recording : Recording policy run results world) (frame : DeliveryFrame run world after) :
    Recording policy run results after where
  idle := (tasks_untouched frame.untouched).mpr recording.idle
  nodup := recording.nodup
  waiting := by
    intro entry listed
    rcases recording.waiting entry listed with ⟨locks, replies⟩
    refine ⟨locks.stable frame.untouched, ?_⟩
    rw [frame.sends recording.idle]
    exact replies
  others := fun key absent => (recording.others key absent).stable frame recording.idle
  accepting := frame.untouched.refusing.trans recording.accepting
  uncommitted := by
    rw [frame.untouched.own]
    exact recording.uncommitted

/-- These results wait, and there was a time for every attempt that was scheduled. -/
structure Queued (policy : RetryPolicy) (results : List (WebhookDelivery × Option WebhookSendResult))
    (events : List Event) : Prop where
  queue : (recordings events).queue = sent_results results
  scheduled : Scheduled policy events

def recording (run : RunId) (results : List (WebhookDelivery × Option WebhookSendResult)) :
    (delivery_discipline deployment).Assertion run where
  holds := fun world => Recording deployment.retry_policy run results world ∧
    Queued deployment.retry_policy results (world.own run)
  stable := fun known rely _ => ⟨known.1.stable rely.1, rely.1.untouched.own ▸ known.2⟩

/-- The clock has just shown the time of the next record. -/
def stamped (run : RunId) (results : List (WebhookDelivery × Option WebhookSendResult)) (now : Datetime) :
    (delivery_discipline deployment).Assertion run where
  holds := fun world => Recording deployment.retry_policy run results world ∧
    Exists fun earlier => world.own run = .clock_read now :: earlier ∧ Queued deployment.retry_policy results earlier
  stable := fun known rely _ => ⟨known.1.stable rely.1, rely.1.untouched.own ▸ known.2⟩

theorem collapsed_of_recording {raised : Error} (recording : Recording policy run results world)
    (collapse : Collapse deployment.retry_policy run raised world) : @collapsed deployment run raised world :=
  ⟨fun _ => recording.idle, collapse⟩

/-- The next result has been taken up. -/
theorem Queued.taken {earlier : List Event} (queued : Queued policy ((delivery, some result) :: rest) earlier) :
    recordings (.clock_read now :: earlier) =
      ⟨sent_results rest, (delivery, result, now) :: (recordings earlier).taken⟩ := by
  have queue : (recordings earlier).queue = (delivery, result) :: sent_results rest := queued.queue
  rw [recordings, queue]

theorem Queued.recorded {earlier : List Event} {rows : List WebhookDeliveryModel}
    (queued : Queued policy ((delivery, some result) :: rest) earlier) (schedulable : Schedulable policy delivery result now) :
    Queued policy rest
      (.updated .webhook_deliveries (.delivery_progress changed) rows :: .clock_read now :: earlier) := by
  have same : recordings (.updated .webhook_deliveries (.delivery_progress changed) rows :: .clock_read now :: earlier) =
      ⟨sent_results rest, (delivery, result, now) :: (recordings earlier).taken⟩ := queued.taken
  refine ⟨congrArg Recordings.queue same, fun found answer time listed => ?_⟩
  rw [same] at listed
  rcases List.mem_cons.mp listed with head | before
  · cases head
    exact schedulable
  · exact queued.scheduled found answer time before

/-- A delivery that was not sent keeps its row. -/
theorem Recording.skipped (recording : Recording policy run ((delivery, none) :: rest) world) :
    Recording policy run rest world where
  idle := recording.idle
  nodup := (List.nodup_cons.mp recording.nodup).2
  waiting := fun entry listed => recording.waiting entry (List.mem_cons_of_mem _ listed)
  others := by
    intro key absent
    by_cases same : key = delivery.id
    · subst same
      rcases recording.waiting (delivery, none) List.mem_cons_self with ⟨locks, unsent⟩
      exact .kept _ rfl locks unsent
    · refine recording.others key ?_
      rw [List.map_cons, List.mem_cons, not_or]
      exact ⟨same, absent⟩
  accepting := recording.accepting
  uncommitted := recording.uncommitted

theorem Recording.noted {event : Event} (recording : Recording policy run results world)
    (silent : forall record, event ≠ .committed record) :
    Recording policy run results (world.note (.run run) event) where
  idle := recording.idle
  nodup := recording.nodup
  waiting := by
    intro entry listed
    rcases recording.waiting entry listed with ⟨locks, replies⟩
    refine ⟨⟨locks.committed, locks.locked, locks.pending⟩, ?_⟩
    have sends : sends_of run entry.1.id (world.note (.run run) event).trace =
        sends_of run entry.1.id world.trace := sends_of_run
    rw [sends]
    exact replies
  others := fun key absent =>
    (recording.others key absent).follow rfl sends_of_run (own_grows (List.suffix_cons _ _) run)
  accepting := recording.accepting
  uncommitted := by
    intro record
    rw [World.own_note_self, List.mem_cons, not_or]
    exact ⟨fun same => silent record same.symm, recording.uncommitted record⟩

theorem recorded_id (computed : recorded delivery result now policy = .ok changed) : changed.id = delivery.id := by
  rcases recorded_cases computed with ⟨_, rfl⟩
  rfl

theorem recorded_time (computed : recorded delivery result now policy = .ok changed) : changed.updated_at = now := by
  rcases recorded_cases computed with ⟨_, rfl⟩
  rfl

/-- The statement of `update` writes the whole new version. -/
theorem recorded_values (computed : recorded delivery result now policy = .ok changed) (time : Datetime) :
    (Update.delivery_progress changed).values time (WebhookDeliveryModel.to_model delivery) =
      WebhookDeliveryModel.to_model changed := by
  rcases recorded_cases computed with ⟨_, rfl⟩
  rfl

/-- The database keeps the new version if it can keep the answer. -/
theorem recorded_storable (computed : recorded delivery result now policy = .ok changed)
    (storable : (WebhookDeliveryModel.to_model delivery).storable = true) :
    (WebhookDeliveryModel.to_model changed).storable = result.body.all str_storable := by
  rcases recorded_cases computed with ⟨_, rfl⟩
  have storable : (decide (delivery.event_type.length ≤ 64) && text_storable delivery.event_type &&
      delivery.response_body.all str_storable && optional_varchar_storable 64 delivery.correlation_id) = true :=
    storable
  rw [Bool.and_eq_true, Bool.and_eq_true] at storable
  change (decide (delivery.event_type.length ≤ 64) && text_storable delivery.event_type &&
    result.body.all str_storable && optional_varchar_storable 64 delivery.correlation_id) = _
  rw [storable.1.1, storable.2, Bool.true_and, Bool.and_true]

/-- The progress of a delivery has been written to its row. -/
theorem Recording.written (kept : DeliveriesKept policy world)
    (recording : Recording policy run ((delivery, some result) :: rest) world) {earlier : List Event}
    (clock : world.own run = .clock_read now :: earlier) (computed : recorded delivery result now policy = .ok changed)
    {rows : List WebhookDeliveryModel}
    (executed : World.Executed run world (.update .webhook_deliveries (.delivery_progress changed)) after (.ok rows)) :
    Recording policy run rest after := by
  rcases recording.waiting (delivery, some result) List.mem_cons_self with ⟨locks, outcome, sent, answered⟩
  have own := World.own_updated executed
  have named : forall row : WebhookDeliveryModel, (Update.delivery_progress changed).condition row = true ->
      @Row.id .webhook_deliveries row = delivery.id := by
    intro row matched
    exact (of_decide_eq_true matched : row.id = changed.id).trans (recorded_id computed)
  have visible : (world.cell .webhook_deliveries delivery.id).visible run =
      some (WebhookDeliveryModel.to_model delivery) := Cell.visible_of_lock locks.locked
  have sends : forall key, sends_of run key after.trace = sends_of run key world.trace :=
    fun key => sends_executed executed
  have grown : Exists fun newer => after.own run = newer ++ world.own run := ⟨[_], own⟩
  cases executed.updated_at kept.keyed named with
  | missed unmatched =>
      have matched : (Update.delivery_progress changed).condition (WebhookDeliveryModel.to_model delivery) = true :=
        decide_eq_true (recorded_id computed).symm
      have unmatched := unmatched _ visible
      rw [matched] at unmatched
      cases unmatched
  | matched row time seen selected free single written others =>
      rw [visible] at seen
      cases seen
      rw [recorded_values computed time] at written
      have elsewhere : forall key, key ≠ delivery.id ->
          after.cell .webhook_deliveries key = world.cell .webhook_deliveries key :=
        fun key different => others .webhook_deliveries key (fun _ => different)
      have fresh := List.nodup_cons.mp recording.nodup
      refine ⟨?_, fresh.2, ?_, ?_, ?_, ?_⟩
      · cases executed with
        | updated => exact recording.idle
      · intro entry listed
        rcases recording.waiting entry (List.mem_cons_of_mem _ listed) with ⟨locks', replies⟩
        have different : entry.1.id ≠ delivery.id := fun same => fresh.1 (List.mem_map.mpr ⟨entry, listed, same⟩)
        have same := elsewhere entry.1.id different
        refine ⟨⟨(congrArg Cell.committed same).trans locks'.committed, (congrArg Cell.lock same).trans locks'.locked,
          locks'.pending⟩, ?_⟩
        rw [sends]
        exact replies
      · intro key absent
        by_cases same : key = delivery.id
        · subst same
          refine .recorded (WebhookDeliveryModel.to_model delivery) rfl changed ⟨?_, ?_, ⟨outcome, result, ?_, answered, ?_⟩,
            [], rows, earlier, ?_⟩
          · exact (congrArg Cell.committed written).trans locks.committed
          · exact congrArg Cell.lock written
          · exact (sends _).trans sent
          · rw [recorded_time computed]
            exact computed
          · rw [own, clock, recorded_time computed]
            rfl
        · refine (recording.others key ?_).follow (elsewhere key same) (sends key) grown
          rw [List.map_cons, List.mem_cons, not_or]
          exact ⟨same, absent⟩
      · cases executed with
        | updated => exact recording.accepting
      · intro record
        rw [own, List.mem_cons, not_or]
        exact ⟨(fun impossible => by cases impossible), recording.uncommitted record⟩

/-- An update that raises has been interrupted, or the database cannot keep the answer. -/
theorem Recording.refused (kept : DeliveriesKept policy world)
    (recording : Recording policy run ((delivery, some result) :: rest) world)
    (computed : recorded delivery result now policy = .ok changed) {choice : Choice} {raised : Error}
    (ran : World.exec_update run .webhook_deliveries (.delivery_progress changed) choice world =
      some (after, .error raised)) : after = world ∧ Collapse policy run raised world := by
  rcases recording.waiting (delivery, some result) List.mem_cons_self with ⟨locks, outcome, sent, answered⟩
  rcases statement_raised recording.accepting ran with ⟨same, outside⟩ | executing
  · exact ⟨same, .interrupted outside⟩
  · rcases Option.map_eq_some_iff.mp executing with ⟨⟨table, rows⟩, changes, ended⟩
    dsimp only at ended
    split at ended
    · cases ended
    · next unstorable =>
        cases ended
        refine ⟨rfl, .spoiled delivery.id outcome (by rw [sent]; exact List.mem_cons_self) ?_ recording.uncommitted⟩
        rintro ⟨result', answered', storable⟩
        rw [answered] at answered'
        cases answered'
        refine unstorable (List.all_eq_true.mpr (fun row listed => ?_))
        rcases (Table.mem_update_rows changes).mp listed with ⟨key, old, seen, selected, rfl⟩
        have own : old.id = key := kept.keyed .webhook_deliveries key old (Cell.carries_of_visible seen)
        have same : old.id = delivery.id := (of_decide_eq_true selected : old.id = changed.id).trans (recorded_id computed)
        rw [same] at own
        subst own
        have visible : ((world.tables .webhook_deliveries).cell delivery.id).visible run =
            some (WebhookDeliveryModel.to_model delivery) := Cell.visible_of_lock locks.locked
        rw [visible] at seen
        cases seen
        have keeps : (WebhookDeliveryModel.to_model changed).storable = true := by
          rw [recorded_storable computed (kept.stored _ _ (.committed locks.committed))]
          exact storable
        rw [recorded_values computed]
        exact keeps

end

/-- One result is recorded. -/
theorem record_triple {rest : List (WebhookDelivery × Option WebhookSendResult)} (delivery : WebhookDelivery)
    (result : WebhookSendResult) :
    (delivery_discipline deployment).Triple (recording run ((delivery, some result) :: rest))
      (DeliverDueWebhooksHandler.record delivery result deployment.retry_policy) (fun _ => recording run rest)
      (collapsed run) := by
  have clock : (delivery_discipline deployment).Triple (recording run ((delivery, some result) :: rest)) (await .now)
      (fun now => stamped run ((delivery, some result) :: rest) now) (collapsed run) := by
    refine Discipline.Triple.perform (fun _ _ _ => permits_of_unconcerned rfl (by simp) (by simp) (by simp))
      (fun world choice after now _ known ran _ _ => ?_) (fun world choice after raised _ known ran _ _ => ?_)
    · cases service_executed ran with
      | now => exact ⟨Recording.noted known.1 (by simp), _, World.own_note_self _, known.2⟩
    · cases ran
  refine Discipline.Triple.bind clock (fun now => ?_)
  refine Discipline.Triple.ofExcept_bind (fun raised world failed _ known => ?_) (fun changed computed => ?_)
  · rcases known with ⟨recording, earlier, own, queued⟩
    rcases recording.waiting (delivery, some result) List.mem_cons_self with ⟨locks, outcome, sent, _⟩
    have unschedulable : ¬ Schedulable deployment.retry_policy delivery result now := fun schedulable => by
      rw [recorded_of_pending locks.pending schedulable] at failed
      cases failed
    refine collapsed_of_recording recording (.unscheduled delivery.id outcome (by rw [sent]; exact List.mem_cons_self)
      (fun scheduled => unschedulable (scheduled delivery result now ?_)) recording.uncommitted)
    rw [own, queued.taken]
    exact List.mem_cons_self
  · have updated : (delivery_discipline deployment).Triple (stamped run ((delivery, some result) :: rest) now)
        (await (.update .webhook_deliveries (.delivery_progress changed))) (fun _ => recording run rest)
        (collapsed run) := by
      refine Discipline.Triple.perform (fun world _ known => ?_) (fun world choice after rows kept known ran _ _ => ?_)
        (fun world choice after raised kept known ran _ _ => ?_)
      · exact ⟨by simp, by simp, fun _ _ => known.1.idle, by simp, by simp, by simp, by simp⟩
      · rcases known with ⟨recording, earlier, own, queued⟩
        refine ⟨recording.written kept own computed (service_executed ran), ?_⟩
        rw [World.own_updated (service_executed ran), own]
        exact queued.recorded (recorded_schedulable computed)
      · rcases known with ⟨recording, _⟩
        rcases recording.refused kept computed ran with ⟨same, collapse⟩
        subst same
        exact collapsed_of_recording recording collapse
    refine Discipline.Triple.bind (Discipline.Triple.bind updated (fun _ =>
      Discipline.Triple.ret (fun _ _ known => known))) (fun _ => Discipline.Triple.ret (fun _ _ known => known))

theorem record_all_triple (results : List (WebhookDelivery × Option WebhookSendResult)) :
    (delivery_discipline deployment).Triple (recording run results)
      (DeliverDueWebhooksHandler.record_all deployment.retry_policy results) (fun _ => recording run [])
      (collapsed run) := by
  induction results with
  | nil => exact Discipline.Triple.ret (fun _ _ known => known)
  | cons entry rest inductionHypothesis =>
      rcases entry with ⟨delivery, _ | result⟩
      · exact inductionHypothesis.strengthen (fun _ _ known => ⟨Recording.skipped known.1, known.2.queue, known.2.scheduled⟩)
      · refine Discipline.Triple.bind (record_triple delivery result) (fun _ => ?_)
        exact Discipline.Triple.bind inductionHypothesis (fun _ => Discipline.Triple.ret (fun _ _ known => known))

/-- Every send has been answered: the results wait to be recorded. -/
theorem results_recording {deliveries : List WebhookDelivery} (present : deliveries ≠ [])
    (kept : DeliveriesKept policy world) (batch : DeliveryBatch run deliveries world)
    (tasks : (world.sending run).tasks.map SendTask.delivery = deliveries)
    {results : List (WebhookDelivery × Option WebhookSendResult)}
    (ended : (world.sending run).tasks.mapM World.send_result = some results) :
    Recording policy run results (world.set_sending run Gather.none) := by
  rcases send_results ended with ⟨entries, members⟩
  have tracks : TracksSends run world := by
    refine (kept.tracked run).resolve_left (fun empty => present ?_)
    rw [← tasks, empty]
    rfl
  have ids : results.map (fun entry => entry.1.id) = deliveries.map WebhookDelivery.id := by
    rw [← tasks, ← entries, List.map_map]
    rfl
  refine ⟨tasks_set_sending _, ids ▸ batch.nodup, ?_, ?_, batch.accepting, batch.uncommitted⟩
  · intro entry listed
    rcases members entry listed with ⟨task, outcome, member, delivery, state, answered⟩
    have included : entry.1 ∈ deliveries := by
      rw [← tasks, ← delivery]
      exact List.mem_map.mpr ⟨task, member, rfl⟩
    have locks := batch.locks entry.1 included
    refine ⟨⟨locks.committed, locks.locked, locks.pending⟩, ?_⟩
    rcases List.mem_iff_getElem?.mp member with ⟨index, found⟩
    have only := answers_at tracks.nodup found
    rw [delivery, state] at only
    have sends : sends_of run entry.1.id world.trace = outcome.toList := (tracks.sends _).trans only
    change Replies entry.2 (sends_of run entry.1.id world.trace)
    rw [sends]
    exact replies_of_sent answered
  · intro key absent
    rw [ids] at absent
    refine .apart (batch.apart key absent) ?_
    change sends_of run key world.trace = []
    rw [tracks.sends]
    refine answers_nil_of_absent (fun listed => absent ?_)
    rw [← tasks, List.map_map]
    exact listed

/-- A wait for sends that raises was cancelled, or one of the sends has raised. -/
theorem sent_all_raised {choice : Choice} {raised : Error}
    (ran : World.exec_sent_all run choice world = some (after, .error raised)) :
    (after = world.set_sending run Gather.none ∧ raised = .cancelled) ∨
      (after = world ∧ Exists fun task => Exists fun message => task ∈ (world.sending run).tasks ∧
        task.state = .finished (some (.other_error message))) := by
  unfold World.exec_sent_all at ran
  split at ran
  · cases ran
    exact .inl ⟨rfl, rfl⟩
  · split at ran
    · next error found =>
        cases ran
        rcases List.exists_of_findSome?_eq_some found with ⟨task, member, found⟩
        unfold World.send_error at found
        split at found
        · next message state => exact .inr ⟨rfl, task, message, member, state⟩
        · cases found
    · rcases Option.map_eq_some_iff.mp ran with ⟨_, _, impossible⟩
      cases impossible

theorem unrecordable_other (message : String) : ¬ Recordable (.other_error message) := by
  rintro ⟨result, answered, _⟩
  cases answered

theorem sent_all_triple {deliveries : List WebhookDelivery} (present : deliveries ≠ []) :
    (delivery_discipline deployment).Triple (sending run deliveries) (await .sent_all)
      (fun (results : List (WebhookDelivery × Option WebhookSendResult)) => recording run results) (collapsed run) := by
  refine Discipline.Triple.perform (fun _ _ _ => permits_of_unconcerned rfl (by simp) (by simp) (by simp))
    (fun world choice after results kept known ran _ _ => ?_)
    (fun world choice after raised kept known ran _ _ => ?_)
  · rcases known with ⟨batch, tasks⟩
    cases service_executed ran with
    | sent _ quiet ended =>
        refine ⟨(results_recording present kept batch tasks ended).noted (by simp), ?_⟩
        have own : (World.note (.run run) (.gathered results) (world.set_sending run Gather.none)).own run =
            .gathered results :: world.own run := World.own_note_self _
        rw [own]
        refine ⟨rfl, fun delivery result now listed => ?_⟩
        rw [recordings, batch.unrecorded] at listed
        cases listed
  · rcases known with ⟨batch, tasks⟩
    rcases sent_all_raised ran with ⟨rfl, rfl⟩ | ⟨same, task, message, member, state⟩
    · exact ⟨fun _ => tasks_set_sending _, .interrupted (.inr rfl)⟩
    · subst same
      have tracks : TracksSends run after := by
        refine (kept.tracked run).resolve_left (fun empty => ?_)
        rw [empty] at member
        cases member
      rcases List.mem_iff_getElem?.mp member with ⟨index, found⟩
      have only := answers_at tracks.nodup found
      rw [state] at only
      have listed : ClientOutcome.other_error message ∈ sends_of run task.delivery.id after.trace := by
        rw [tracks.sends, only]
        exact List.mem_cons_self
      refine ⟨fun converted => ?_, .spoiled _ _ listed (unrecordable_other message) batch.uncommitted⟩
      exact absurd (mem_sends_of.mp listed) (converted run task.delivery.id message)

theorem delivery_body_triple (batch_size concurrency : Int) :
    (delivery_discipline deployment).Triple (claimed run [])
      (DeliverDueWebhooksHandler.body batch_size deployment.retry_policy concurrency)
      (fun _ => recording run []) (collapsed run) := by
  refine Discipline.Triple.bind opening_triple (fun now => ?_)
  refine Discipline.Triple.bind (claim_due_triple batch_size now) (fun deliveries => ?_)
  cases deliveries with
  | nil =>
      refine Discipline.Triple.ret (fun world _ known => ?_)
      rcases known with ⟨silent, batch⟩
      refine ⟨⟨silent.idle, List.nodup_nil, (fun _ listed => by cases listed),
        fun key absent => .apart (batch.apart key absent) (silent.unsent key), batch.accepting, batch.uncommitted⟩,
        ?_, fun delivery result now listed => ?_⟩
      · rw [batch.unrecorded]
        rfl
      · rw [batch.unrecorded] at listed
        cases listed
  | cons head tail =>
      refine Discipline.Triple.bind (load_payments_triple (head :: tail)) (fun payments => ?_)
      have sends : (delivery_discipline deployment).Triple (claimed run (head :: tail))
          (DeliverDueWebhooksHandler.send_all (head :: tail) payments concurrency)
          (fun results => recording run results) (collapsed run) :=
        Discipline.Triple.bind (send_all_triple (head :: tail) payments concurrency)
          (fun _ => sent_all_triple (List.cons_ne_nil _ _))
      refine Discipline.Triple.bind sends (fun results => ?_)
      exact Discipline.Triple.bind (record_all_triple results) (fun _ => Discipline.Triple.ret (fun _ _ known => known))

end Properties
end Payments
