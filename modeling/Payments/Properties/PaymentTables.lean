import Payments.Concurrency.Histories
import Payments.Infrastructure.Workers
import Payments.Properties.PaymentRows

namespace Payments
namespace Properties

open Concurrency Domain Infrastructure Application

/-!
# The three payment tables

A committed payment is either pending, with no attempt and no delivery, or it
has ended, with exactly one of each.  All three tables change together in the
one transaction that ends the payment, and that transaction holds the lock of
the payment from before the charge until its end.  So whoever is about to
charge a payment knows that every earlier charge of it has been rolled back.
-/

variable {world after : World} {run : RunId} {op : Op} {key : UUID}

/-- The run holds no row of the table. -/
def Away (name : TableName) (run : RunId) (world : World) : Prop :=
  forall key, ¬ (world.cell name key).HeldBy run

/-- The row is the only committed row of its table that is selected. -/
def Sole (name : TableName) (selects : Row name -> Prop) (row : Row name) (world : World) : Prop :=
  Exists fun id => (world.cell name id).committed = some row ∧ selects row ∧
    forall other found, (world.cell name other).committed = some found -> selects found -> other = id

/-- Nothing has been committed about the processing of the payment. -/
structure Untried (key : UUID) (world : World) : Prop where
  attempts : forall id attempt, (world.cell .payment_attempts id).committed = some attempt ->
    attempt.payment_id ≠ key
  deliveries : forall id delivery, (world.cell .webhook_deliveries id).committed = some delivery ->
    delivery.payment_id ≠ key

/-- The payment has its attempt and its delivery. -/
structure Tried (key : UUID) (status : PaymentStatus) (world : World) : Prop where
  attempt : Exists fun attempt => Sole .payment_attempts (fun row => row.payment_id = key) attempt world ∧
    attempt.attempt_number = 1 ∧ attempt.status.value = status.value
  delivery : Exists fun delivery => Sole .webhook_deliveries (fun row => row.payment_id = key) delivery world ∧
    delivery.event_type = "payment." ++ status.value

/-- The two shapes of a committed payment. -/
inductive Shaped (key : UUID) (row : PaymentModel) (world : World) : Prop where
  | pending (fresh : Fresh row) (untried : Untried key world)
  | ended (final : Final row) (tried : Tried key row.status world)

/-- The version a transaction may hold of a payment. -/
inductive Drafts (committed : Option PaymentModel) (draft : PaymentModel) : Prop where
  | created (vacant : committed = none) (fresh : Fresh draft)
  | begun (row : PaymentModel) (found : committed = some row) (fresh : Fresh row) (same : draft = working row)
  | ended (row : PaymentModel) (target : PaymentStatus) (time : Datetime) (found : committed = some row)
      (fresh : Fresh row) (terminal : target.terminal = true) (same : draft = finished row target time)

/-- A later version of a committed payment. -/
inductive Grows (row later : PaymentModel) : Prop where
  | same (unchanged : later = row)
  | ended (fresh : Fresh row) (final : Final later) (kept : origin later = origin row)

theorem Grows.trans {first second third : PaymentModel} (before : Grows first second)
    (after : Grows second third) : Grows first third := by
  cases before with
  | same unchanged => exact unchanged ▸ after
  | ended fresh final kept =>
      cases after with
      | same unchanged => exact unchanged ▸ .ended fresh final kept
      | ended fresh' => exact absurd final fresh'.not_final

theorem Grows.of_final {row later : PaymentModel} (grows : Grows row later) (final : Final row) :
    later = row := by
  cases grows with
  | same unchanged => exact unchanged
  | ended fresh => exact absurd final fresh.not_final

theorem Grows.origin {row later : PaymentModel} (grows : Grows row later) :
    Properties.origin later = Properties.origin row := by
  cases grows with
  | same unchanged => rw [unchanged]
  | ended _ _ kept => exact kept

/-- What is charged is what the payment says. -/
structure Orders (row : PaymentModel) (money : Money) (text : String) : Prop where
  amount : money.amount = row.amount
  currency : money.currency.value = row.currency
  idempotency_key : text = row.idempotency_key

theorem Orders.of_origin {row later : PaymentModel} {amount : Money} {idempotency_key : String}
    (orders : Orders row amount idempotency_key) (same : origin later = origin row) :
    Orders later amount idempotency_key := by
  have amounts : later.amount = row.amount := by
    have parts := congrArg PaymentModel.amount same
    exact parts
  have currencies : later.currency = row.currency := by
    have parts := congrArg PaymentModel.currency same
    exact parts
  exact ⟨orders.amount.trans amounts.symm, orders.currency.trans currencies.symm,
    orders.idempotency_key.trans (idempotency_key_of_origin same).symm⟩

/-- The status a gateway result leads to. -/
def verdict (result : GatewayResult) : PaymentStatus :=
  if result.success then .SUCCEEDED else .FAILED

theorem verdict_terminal (result : GatewayResult) : (verdict result).terminal = true := by
  unfold verdict
  split <;> rfl

/-! ## The aggregate of a run -/

/-- A mark of the aggregate, with the target and the time its statement is given. -/
inductive Marks (payment : Payment) : PaymentStatus -> Option Datetime -> Payment -> Prop where
  | processing (now : Datetime) (marked : Payment) (done : payment.mark_processing now = .ok marked) :
      Marks payment .PROCESSING none marked
  | succeeded (now : Datetime) (marked : Payment) (done : payment.mark_succeeded now = .ok marked) :
      Marks payment .SUCCEEDED (some now) marked
  | failed (now : Datetime) (reason : Option String) (marked : Payment)
      (done : payment.mark_failed now reason = .ok marked) : Marks payment .FAILED (some now) marked

/-- The row and the aggregate say the same. -/
structure Coincides (row : PaymentModel) (payment : Payment) : Prop where
  status : row.status = payment.status
  version : row.version = payment.version
  processed_at : row.processed_at = payment.processed_at

/-- The aggregate of a run that has charged the payment: what the methods make of
the loaded one, in the order in which they are called. -/
def charged_aggregate (loaded : Payment) (attempt_id : UUID) (correlation_id : Option String)
    (started_at finished_at : Datetime) (result : GatewayResult) : Except Error Payment := do
  let payment ← loaded.mark_processing started_at
  let (payment, _) ← (payment.hydrate_attempts []).begin_attempt attempt_id correlation_id started_at
  if result.success then do
    let (payment, _) ← payment.succeed_attempt finished_at result
    payment.mark_succeeded finished_at
  else do
    let (payment, _) ← payment.fail_attempt finished_at result.error
    payment.mark_failed finished_at result.error

/-- The aggregates a handler marks: the one it has loaded, and what the end of
the attempt has left of it. -/
inductive Handled (loaded : Payment) : Payment -> Prop where
  | loaded : Handled loaded loaded
  | succeeding (processing charging payment : Payment) (attempt saved : PaymentAttempt) (attempt_id : UUID)
      (correlation_id : Option String) (started_at finished_at : Datetime) (result : GatewayResult)
      (mark : loaded.mark_processing started_at = .ok processing)
      (begin : (processing.hydrate_attempts []).begin_attempt attempt_id correlation_id started_at =
        .ok (charging, attempt))
      (ended : charging.succeed_attempt finished_at result = .ok (payment, saved)) : Handled loaded payment
  | failing (processing charging payment : Payment) (attempt saved : PaymentAttempt) (attempt_id : UUID)
      (correlation_id : Option String) (started_at finished_at : Datetime) (error : Option String)
      (mark : loaded.mark_processing started_at = .ok processing)
      (begin : (processing.hydrate_attempts []).begin_attempt attempt_id correlation_id started_at =
        .ok (charging, attempt))
      (ended : charging.fail_attempt finished_at error = .ok (payment, saved)) : Handled loaded payment

/-- A handler that has loaded the payment of this row has this aggregate. -/
def HandledFrom (id : UUID) (payment : Payment) : Prop :=
  Exists fun row : PaymentModel => Exists fun loaded => row.id = id ∧ row.to_domain = .ok loaded ∧
    Handled loaded payment

/-- The aggregate of the run that has loaded the row coincides with the new version. -/
def Aggregated (row final : PaymentModel) (result : GatewayResult) (time : Datetime) : Prop :=
  Exists fun loaded => Exists fun attempt_id => Exists fun correlation_id => Exists fun started_at =>
    Exists fun aggregate => row.to_domain = .ok loaded ∧
      charged_aggregate loaded attempt_id correlation_id started_at time result = .ok aggregate ∧
      Coincides final aggregate

/-- What a transaction may install in the payment tables. -/
inductive Installs (run : RunId) (world : World) : Prop where
  /-- New payments, and deliveries that stay those of their payments. -/
  | plain (attempts : Away .payment_attempts run world)
      (payments : forall key draft, (world.cell .payments key).lock = some (run, draft) ->
        (world.cell .payments key).committed = none)
      (deliveries : forall key draft, (world.cell .webhook_deliveries key).lock = some (run, draft) ->
        Exists fun old => Exists fun new => (world.cell .webhook_deliveries key).committed = some old ∧
          draft = some new ∧ new.payment_id = old.payment_id ∧ new.event_type = old.event_type)
  /-- The end of one payment, as the gateway has answered. -/
  | settling (key : UUID) (row : PaymentModel) (time : Datetime) (attempt : PaymentAttemptModel)
      (delivery : WebhookDeliveryModel) (amount : Money) (idempotency_key : String) (result : GatewayResult)
      (payments : forall id draft, (world.cell .payments id).lock = some (run, draft) <->
        id = key ∧ draft = some (finished row (verdict result) time))
      (found : (world.cell .payments key).committed = some row) (fresh : Fresh row)
      (untried : (world.cell .payment_attempts attempt.id).committed = none)
      (undelivered : (world.cell .webhook_deliveries delivery.id).committed = none)
      (attempts : forall id draft, (world.cell .payment_attempts id).lock = some (run, draft) <->
        id = attempt.id ∧ draft = some attempt)
      (attempted : attempt.payment_id = key ∧ attempt.attempt_number = 1 ∧
        attempt.status.value = (verdict result).value)
      (deliveries : forall id draft, (world.cell .webhook_deliveries id).lock = some (run, draft) <->
        id = delivery.id ∧ draft = some delivery)
      (delivered : delivery.payment_id = key ∧ delivery.event_type = "payment." ++ (verdict result).value)
      (called : .charge_called key amount idempotency_key ∈ world.own run)
      (answered : .charge_returned key result ∈ world.own run)
      (aggregated : Aggregated row (finished row (verdict result) time) result time)

/-! ## Charges in the trace -/

abbrev Entry := Actor × Event

/-- What has become of the transaction of an earlier charge. -/
inductive Resolved (run : RunId) (key : UUID) (later : List Entry) (world : World) : Prop where
  | holding (held : (world.cell .payments key).HeldBy run)
      (row : PaymentModel) (found : (world.cell .payments key).committed = some row)
  | undone (rolled_back : (.run run, .rolled_back) ∈ later)
  | ended (record : Record) (row : PaymentModel) (recorded : (.run run, .committed record) ∈ later)
      (installed : (key, some row) ∈ record .payments) (final : Final row)

/-- A charge is issued when every earlier charge of the payment has been rolled
back and the payment has not ended. -/
def ChargeAllowed (entry : Entry) (earlier : List Entry) : Prop :=
  forall run key amount idempotency_key, entry = (.run run, .charge_called key amount idempotency_key) ->
    (forall recent before other amount' idempotency_key',
      earlier = recent ++ (.run other, .charge_called key amount' idempotency_key') :: before ->
        other ≠ run ∧ (.run other, .rolled_back) ∈ recent) ∧
    forall other record row, (.run other, .committed record) ∈ earlier ->
      (key, some row) ∈ record .payments -> ¬ Final row

/-- A payment is ended at most once, by a transaction that has charged it, with
the answer that the transaction was given. -/
def EndAllowed (entry : Entry) (earlier : List Entry) : Prop :=
  forall run record key row, entry = (.run run, .committed record) -> (key, some row) ∈ record .payments ->
    Final row ->
    (forall other record' row', (.run other, .committed record') ∈ earlier ->
      (key, some row') ∈ record' .payments -> ¬ Final row') ∧
    Exists fun amount => Exists fun idempotency_key => Exists fun result =>
      (.run run, .charge_called key amount idempotency_key) ∈ earlier ∧
      (.run run, .charge_returned key result) ∈ earlier ∧ row.status = verdict result

/-! ## Answers to the broker -/

/-- No committed transaction has installed a version of the payment. -/
def Unmentioned (key : UUID) (trace : List Entry) : Prop :=
  forall run record row, (.run run, .committed record) ∈ trace -> (key, some row) ∉ record .payments

/-- Why a consumer may acknowledge its message. -/
inductive Answerable (run : RunId) (message : Message) (world : World) : Prop where
  | dead_lettered (copied : .dead_lettered (PaymentConsumerHandler.dlq_copy message) ∈ world.own run)
  | foreign (event_type : Option String) (aggregate_id : AggregateId) (correlation_id : Option String)
      (body : message.body = .object event_type aggregate_id correlation_id)
      (different : event_type ≠ some PaymentConsumerHandler.PAYMENT_CREATED)
  | ended (key : UUID) (correlation_id : Option String) (row : PaymentModel)
      (body : message.body = .object (some PaymentConsumerHandler.PAYMENT_CREATED) (.uuid key) correlation_id)
      (found : (world.cell .payments key).committed = some row) (final : Final row)
  /-- There was no such payment when the message was delivered. -/
  | missing (key : UUID) (correlation_id : Option String) (later earlier : List Entry)
      (body : message.body = .object (some PaymentConsumerHandler.PAYMENT_CREATED) (.uuid key) correlation_id)
      (delivered : world.trace = later ++ (.run run, .delivered message) :: earlier)
      (unmentioned : Unmentioned key earlier)

/-! ## The invariant and what is permitted -/

structure PaymentsKept (world : World) : Prop where
  keyed : World.Keyed world
  shaped : forall key row, (world.cell .payments key).committed = some row -> Shaped key row world
  attempted : forall id attempt, (world.cell .payment_attempts id).committed = some attempt ->
    Exists fun row => (world.cell .payments attempt.payment_id).committed = some row
  delivered : forall id delivery, (world.cell .webhook_deliveries id).committed = some delivery ->
    Exists fun row => (world.cell .payments delivery.payment_id).committed = some row
  unique : forall key other row found, (world.cell .payments key).Carries row ->
    (world.cell .payments other).Carries found -> row.idempotency_key = found.idempotency_key -> key = other
  drafted : forall key run draft, (world.cell .payments key).lock = some (run, draft) ->
    Exists fun row => draft = some row ∧ Drafts (world.cell .payments key).committed row
  /-- No committed payment is lost or changed back. -/
  installed : forall run record key row, (.run run, .committed record) ∈ world.trace ->
    (key, some row) ∈ record .payments ->
    Exists fun later => (world.cell .payments key).committed = some later ∧ Grows row later
  charged : forall later earlier run key amount idempotency_key,
    world.trace = later ++ (.run run, .charge_called key amount idempotency_key) :: earlier ->
    Resolved run key later world
  history : Along ChargeAllowed world.trace
  ends : Along EndAllowed world.trace
  /-- Every committed payment was installed by a transaction on record. -/
  recorded : forall key row, (world.cell .payments key).committed = some row ->
    Exists fun run => Exists fun record => (.run run, .committed record) ∈ world.trace ∧
      (key, some row) ∈ record .payments
  ordered : forall run key amount idempotency_key,
    (.run run, .charge_called key amount idempotency_key) ∈ world.trace ->
    Exists fun row => (world.cell .payments key).committed = some row ∧ Orders row amount idempotency_key

/-- The run has not written any payment yet. -/
def Unwritten (own : List Event) : Prop :=
  forall statement row rows, .updated .payments statement (row :: rows) ∉ own

/-- The run has issued no charge. -/
structure Uncharged (own : List Event) : Prop where
  uncalled : forall key amount text, .charge_called key amount text ∉ own
  unanswered : forall key result, .charge_returned key result ∉ own
  unfinished : .rolled_back ∉ own

/-- The run has issued a charge and waits for the answer. -/
structure Waiting (key : UUID) (own : List Event) : Prop where
  called : Exists fun amount => Exists fun text => .charge_called key amount text ∈ own
  unanswered : forall key result, .charge_returned key result ∉ own
  unfinished : .rolled_back ∉ own

/-- What a run may do to the payment tables and to the gateway. -/
structure PaymentPermits (run : RunId) (op : Op) (world : World) : Prop where
  inserting : forall row, op = .insert_on_conflict_do_nothing (some row) -> Fresh row
  unadded : forall row, op ≠ .add .payments row
  unlocked : forall query limit, op ≠ .select_for_update .payments query limit
  unclaimed : forall query limit statement, op ≠ .update_claimable .payments query limit statement
  moving : forall id version status target time,
    op = .update .payments (.payment_transition id version status target time) ->
    (version = 0 ∧ status = .PENDING ∧ target = .PROCESSING ∧ time = none ∧
      ¬ (world.cell .payments id).HeldBy run ∧ Unwritten (world.own run)) ∨
    (version = 1 ∧ status = .PROCESSING ∧ target.terminal = true ∧ time.isSome = true)
  marking : forall id version status target time,
    op = .update .payments (.payment_transition id version status target time) ->
    Exists fun payment => Exists fun marked => Marks payment target time marked ∧ HandledFrom id payment ∧
      payment.id = id ∧ payment.version = version ∧ payment.status = status ∧ payment.processed_at = none
  committing : op = .commit -> world.refusing run = true ∨ Installs run world
  closing : op = .close -> Away .payments run world
  charging : forall id amount idempotency_key, op = .charge_call id amount idempotency_key ->
    (Exists fun row => (world.cell .payments id).HeldBy run ∧ (world.cell .payments id).committed = some row ∧
      Fresh row ∧ Orders row amount idempotency_key) ∧ Uncharged (world.own run)
  awaiting : forall id, op = .charge_return id -> (world.cell .payments id).HeldBy run ∧ Waiting id (world.own run)
  answering : op = .ack -> forall message, world.broker.unacked run = some message ->
    Answerable run message world

/-! ## What is committed stays -/

/-- The committed rows are the same. -/
def Unmoved (world after : World) : Prop :=
  forall name key, (after.cell name key).committed = (world.cell name key).committed

theorem Untried.of_unmoved (untried : Untried key world) (unmoved : Unmoved world after) : Untried key after where
  attempts := fun id attempt found => untried.attempts id attempt ((unmoved _ id).symm.trans found)
  deliveries := fun id delivery found => untried.deliveries id delivery ((unmoved _ id).symm.trans found)

theorem Sole.of_unmoved {name : TableName} {selects : Row name -> Prop} {row : Row name}
    (sole : Sole name selects row world) (unmoved : Unmoved world after) : Sole name selects row after := by
  rcases sole with ⟨id, found, selected, only⟩
  exact ⟨id, (unmoved name id).trans found, selected,
    fun other row found => only other row ((unmoved name other).symm.trans found)⟩

theorem Tried.of_unmoved {status : PaymentStatus} (tried : Tried key status world)
    (unmoved : Unmoved world after) : Tried key status after := by
  rcases tried with ⟨⟨attempt, sole, attempted⟩, ⟨delivery, sole', delivered⟩⟩
  exact ⟨⟨attempt, sole.of_unmoved unmoved, attempted⟩, ⟨delivery, sole'.of_unmoved unmoved, delivered⟩⟩

theorem Shaped.of_unmoved {row : PaymentModel} (shaped : Shaped key row world) (unmoved : Unmoved world after) :
    Shaped key row after := by
  cases shaped with
  | pending fresh untried => exact .pending fresh (untried.of_unmoved unmoved)
  | ended final tried => exact .ended final (tried.of_unmoved unmoved)

/-- A step that commits nothing and issues no charge. -/
structure Moves (world after : World) (new : List Entry) : Prop where
  unmoved : Unmoved world after
  trace : after.trace = new ++ world.trace
  uncommitted : forall run record, (.run run, .committed record) ∉ new
  uncharged : forall run key amount idempotency_key,
    (.run run, .charge_called key amount idempotency_key) ∉ new
  held : forall run key, (world.cell .payments key).HeldBy run ->
    (after.cell .payments key).HeldBy run ∨ (.run run, .rolled_back) ∈ new

theorem Resolved.moved {later new : List Entry} (resolved : Resolved run key later world)
    (moves : Moves world after new) : Resolved run key (new ++ later) after := by
  cases resolved with
  | holding held row found =>
      rcases moves.held run key held with still | rolled_back
      · exact .holding still row ((moves.unmoved _ key).trans found)
      · exact .undone (List.mem_append_left later rolled_back)
  | undone rolled_back => exact .undone (List.mem_append_right new rolled_back)
  | ended record row recorded installed final =>
      exact .ended record row (List.mem_append_right new recorded) installed final

theorem PaymentsKept.moved (kept : PaymentsKept world) {new : List Entry} (moves : Moves world after new)
    (keyed : World.Keyed after)
    (unique : forall key other row found, (after.cell .payments key).Carries row ->
      (after.cell .payments other).Carries found -> row.idempotency_key = found.idempotency_key -> key = other)
    (drafted : forall key run draft, (after.cell .payments key).lock = some (run, draft) ->
      Exists fun row => draft = some row ∧ Drafts (after.cell .payments key).committed row) :
    PaymentsKept after where
  keyed := keyed
  shaped := by
    intro key row found
    rw [moves.unmoved] at found
    exact (kept.shaped key row found).of_unmoved moves.unmoved
  attempted := by
    intro id attempt found
    rw [moves.unmoved] at found
    rw [moves.unmoved]
    exact kept.attempted id attempt found
  delivered := by
    intro id delivery found
    rw [moves.unmoved] at found
    rw [moves.unmoved]
    exact kept.delivered id delivery found
  unique := unique
  drafted := drafted
  installed := by
    intro run record key row recorded listed
    rw [moves.trace, List.mem_append] at recorded
    rw [moves.unmoved]
    exact kept.installed run record key row (recorded.resolve_left (moves.uncommitted run record)) listed
  charged := by
    intro later earlier run key amount idempotency_key split
    rw [moves.trace] at split
    rcases split_append (moves.uncharged run key amount idempotency_key) split with ⟨rest, rfl, before⟩
    exact (kept.charged rest earlier run key amount idempotency_key before).moved moves
  history := by
    rw [moves.trace]
    refine kept.history.append (fun entry listed earlier run key amount idempotency_key same => ?_)
    exact absurd (same ▸ listed) (moves.uncharged run key amount idempotency_key)
  ends := by
    rw [moves.trace]
    refine kept.ends.append (fun entry listed earlier run record key row same => ?_)
    exact absurd (same ▸ listed) (moves.uncommitted run record)
  recorded := by
    intro key row found
    rw [moves.unmoved] at found
    rcases kept.recorded key row found with ⟨run, record, recorded, listed⟩
    refine ⟨run, record, ?_, listed⟩
    rw [moves.trace]
    exact List.mem_append_right _ recorded
  ordered := by
    intro run key amount idempotency_key listed
    rw [moves.trace, List.mem_append] at listed
    rw [moves.unmoved]
    exact kept.ordered run key amount idempotency_key
      (listed.resolve_left (moves.uncharged run key amount idempotency_key))

/-! ## Statements on payments -/

/-- Every version of a payment but an inserted one comes from an earlier one. -/
theorem carried_executed {answer : Except Error op.Answer} (permits : PaymentPermits run op world)
    (executed : World.Executed run world op after answer) {row : PaymentModel}
    (carried : (after.cell .payments key).Carries row)
    (not_insert : forall new, op ≠ .insert_on_conflict_do_nothing (some new)) :
    Exists fun old => (world.cell .payments key).Carries old ∧ origin row = origin old := by
  rcases (executed.cell .payments key).carries carried with before | written
  · exact ⟨row, before, rfl⟩
  · cases written with
    | updated statement time old operation found selected same =>
        exact ⟨old, Cell.carries_of_visible found, same ▸ origin_values statement time⟩
    | claimed query limit statement time old operation => exact absurd operation (permits.unclaimed _ _ _)
    | added operation => exact absurd operation (permits.unadded row)
    | inserted new table operation => exact absurd operation (not_insert new)

theorem PaymentsKept.carried_origin (kept : PaymentsKept world) {row : PaymentModel}
    (carried : (world.cell .payments key).Carries row) {committed : PaymentModel}
    (found : (world.cell .payments key).committed = some committed) : origin row = origin committed := by
  cases carried with
  | committed same =>
      rw [found] at same
      cases same
      rfl
  | draft locked =>
      rcases kept.drafted key _ _ locked with ⟨draft, same, drafts⟩
      cases same
      cases drafts with
      | created vacant =>
          rw [found] at vacant
          cases vacant
      | begun old found' fresh same =>
          rw [found] at found'
          cases found'
          rw [same, origin_working]
      | ended old target time found' fresh terminal same =>
          rw [found] at found'
          cases found'
          rw [same, origin_finished]

/-- A version with the key is seen by the transaction or locked by another one. -/
theorem PaymentsKept.seen_or_contended (kept : PaymentsKept world) {row : PaymentModel}
    (carried : (world.cell .payments key).Carries row) :
    world.conflicts run row.idempotency_key = true ∨ world.contended run row.idempotency_key = true := by
  have listed : key ∈ (world.tables .payments).keys := Table.listed_of_carries carried
  have seen : forall visible, (world.cell .payments key).visible run = some visible ->
      visible.idempotency_key = row.idempotency_key -> world.conflicts run row.idempotency_key = true := by
    intro visible seen same
    have member : key ∈ (world.tables .payments).matching run
        (fun found => decide (PaymentModel.idempotency_key found = row.idempotency_key)) :=
      Table.mem_matching.mpr ⟨visible, seen, decide_eq_true same⟩
    unfold World.conflicts
    cases matching : (world.tables .payments).matching run
        (fun found => decide (PaymentModel.idempotency_key found = row.idempotency_key)) with
    | nil =>
        rw [matching] at member
        cases member
    | cons head tail => rfl
  by_cases mine : (world.cell .payments key).HeldBy run
  · rcases mine with ⟨draft, locked⟩
    rcases kept.drafted key run draft locked with ⟨visible, rfl, drafts⟩
    refine .inl (seen visible (Cell.visible_of_lock locked) ?_)
    cases carried with
    | committed same =>
        exact idempotency_key_of_origin (kept.carried_origin (.draft locked) same)
    | draft same =>
        rw [locked] at same
        cases same
        rfl
  · cases carried with
    | committed same =>
        exact .inl (seen row ((Cell.visible_of_not_heldBy mine).trans same) rfl)
    | draft locked =>
        rename_i holder
        have different : holder ≠ run := fun same => mine ⟨_, same ▸ locked⟩
        refine .inr ?_
        simp only [World.contended, List.any_eq_true]
        refine ⟨key, listed, ?_⟩
        simp [locked, different]

theorem PaymentsKept.unique_executed (kept : PaymentsKept world) {answer : Except Error op.Answer}
    (permits : PaymentPermits run op world) (executed : World.Executed run world op after answer)
    {other : UUID} {row found : PaymentModel} (first : (after.cell .payments key).Carries row)
    (second : (after.cell .payments other).Carries found)
    (same : row.idempotency_key = found.idempotency_key) : key = other := by
  by_cases insert : Exists fun new => op = .insert_on_conflict_do_nothing (some new)
  · rcases insert with ⟨new, rfl⟩
    cases executed with
    | raised => exact kept.unique key other row found first second same
    | conflicting => exact kept.unique key other row found first second same
    | inserted new storable unseen uncontended unlisted =>
        have unused : forall id old, (world.cell .payments id).Carries old ->
            old.idempotency_key ≠ new.idempotency_key := by
          intro id old carried equal
          rcases @PaymentsKept.seen_or_contended world run id kept old carried with conflict | contended
          · rw [equal, unseen] at conflict
            cases conflict
          · rw [equal, uncontended] at contended
            cases contended
        have cases_of : forall id old,
            ((world.set_table .payments ((world.tables .payments).put run new.id new)).cell .payments id).Carries old ->
            (id = new.id ∧ old = new) ∨ (world.cell .payments id).Carries old := by
          intro id old carried
          rw [World.cell_set_table_self] at carried
          by_cases here : id = new.id
          · subst here
            rw [Table.put_cell_self, (world.tables .payments).complete _ unlisted] at carried
            cases carried with
            | committed same => cases same
            | draft same =>
                cases same
                exact .inl ⟨rfl, rfl⟩
          · rw [Table.put_cell_of_ne new here] at carried
            exact .inr carried
        rcases cases_of key row first with ⟨rfl, rfl⟩ | before
        · rcases cases_of other found second with ⟨rfl, rfl⟩ | before'
          · rfl
          · exact absurd same.symm (unused other found before')
        · rcases cases_of other found second with ⟨rfl, rfl⟩ | before'
          · exact absurd same (unused key row before)
          · exact kept.unique key other row found before before' same
  · have not_insert : forall new, op ≠ .insert_on_conflict_do_nothing (some new) :=
      fun new operation => insert ⟨new, operation⟩
    rcases carried_executed permits executed first not_insert with ⟨old, before, origin_row⟩
    rcases carried_executed permits executed second not_insert with ⟨old', before', origin_found⟩
    have keys := idempotency_key_of_origin origin_row
    have keys' := idempotency_key_of_origin origin_found
    exact kept.unique key other old old' before before' (keys.symm.trans (same.trans keys'))

/-- A transition takes a fresh payment into work, or ends one that its own
transaction has taken. -/
theorem PaymentsKept.transition_drafts (kept : PaymentsKept world) {statement : Update .payments}
    (permits : PaymentPermits run (.update .payments statement) world) {row : PaymentModel} {time : Datetime}
    (seen : (world.cell .payments key).visible run = some row) (selected : statement.condition row = true) :
    Drafts (world.cell .payments key).committed (statement.values time row) := by
  cases statement with
  | payment_transition id version status target processed_at =>
      rcases transition_condition.mp selected with ⟨named, sameStatus, sameVersion⟩
      have own : row.id = key := kept.keyed .payments key row (Cell.carries_of_visible seen)
      rcases permits.moving id version status target processed_at rfl with
        ⟨rfl, rfl, rfl, rfl, away, _⟩ | ⟨rfl, rfl, terminal, ended⟩
      · have same : id = key := named.symm.trans own
        subst same
        rw [Cell.visible_of_not_heldBy away] at seen
        cases kept.shaped id row seen with
        | pending fresh untried => exact .begun row seen fresh (begun fresh id time)
        | ended final tried =>
            have terminal := final.terminal
            rw [sameStatus] at terminal
            cases terminal
      · rcases Option.isSome_iff_exists.mp ended with ⟨instant, rfl⟩
        by_cases mine : (world.cell .payments key).HeldBy run
        · rcases mine with ⟨draft, locked⟩
          rw [Cell.visible_of_lock locked] at seen
          rcases kept.drafted key run draft locked with ⟨held, same, drafts⟩
          rw [seen] at same
          cases same
          cases drafts with
          | created vacant fresh =>
              rw [fresh.status] at sameStatus
              cases sameStatus
          | begun old found fresh same =>
              rw [same, ended_as]
              exact .ended old target instant found fresh terminal rfl
          | ended old before instant' found fresh ended' same =>
              rw [same] at sameStatus
              have impossible : before = .PROCESSING := sameStatus
              rw [impossible] at ended'
              cases ended'
        · rw [Cell.visible_of_not_heldBy mine] at seen
          cases kept.shaped key row seen with
          | pending fresh untried =>
              rw [fresh.status] at sameStatus
              cases sameStatus
          | ended final tried =>
              have terminal := final.terminal
              rw [sameStatus] at terminal
              cases terminal

theorem PaymentsKept.drafted_executed (kept : PaymentsKept world) {answer : Except Error op.Answer}
    (permits : PaymentPermits run op world) (executed : World.Executed run world op after answer)
    (not_commit : op ≠ .commit) {holder : RunId} {draft : Option PaymentModel}
    (locked : (after.cell .payments key).lock = some (holder, draft)) :
    Exists fun row => draft = some row ∧ Drafts (after.cell .payments key).committed row := by
  have change := executed.cell .payments key
  rw [change.committed_same not_commit]
  cases change with
  | kept same => exact kept.drafted key holder draft (same ▸ locked)
  | locked query limit row operation => exact absurd operation (permits.unlocked _ _)
  | updated statement time row operation seen selected free same =>
      subst operation
      rw [same] at locked
      cases locked
      exact ⟨_, rfl, kept.transition_drafts permits seen selected⟩
  | claimed query limit statement time row operation => exact absurd operation (permits.unclaimed _ _ _)
  | deleted cutoff row operation table => cases table
  | added row operation => exact absurd operation (permits.unadded row)
  | inserted row operation table own vacant same =>
      rw [same] at locked
      cases locked
      rw [vacant]
      exact ⟨row, rfl, .created rfl (permits.inserting row operation)⟩
  | committed operation => exact absurd operation not_commit
  | released operation same =>
      rw [same] at locked
      exact kept.drafted key holder draft (Cell.lock_of_rollback locked).1

/-- A run that gives a payment up is rolled back. -/
theorem held_executed {answer : Except Error op.Answer} (permits : PaymentPermits run op world)
    (executed : World.Executed run world op after answer) (not_commit : op ≠ .commit) {holder : RunId}
    (held : (world.cell .payments key).HeldBy holder) :
    (after.cell .payments key).HeldBy holder ∨
      after.trace = (.run run, .rolled_back) :: world.trace ∧ holder = run := by
  by_cases same : holder = run
  · subst same
    by_cases closing : op = .close
    · exact absurd held (permits.closing closing key)
    · by_cases rolling : op = .rollback
      · subst rolling
        cases executed with
        | raised => exact .inl held
        | rolled_back => exact .inr ⟨rfl, rfl⟩
      · exact .inl ((executed.cell .payments key).held held not_commit rolling closing)
  · have unchanged := (executed.untouched same).tables .payments key (.inl held)
    exact .inl (by rw [World.cell, unchanged]; exact held)

theorem moves_executed {answer : Except Error op.Answer} (permits : PaymentPermits run op world)
    (executed : World.Executed run world op after answer) (not_commit : op ≠ .commit)
    (not_charge : forall id amount idempotency_key, op ≠ .charge_call id amount idempotency_key) :
    Exists fun new => Moves world after new := by
  have unmoved : Unmoved world after := fun name key => (executed.cell name key).committed_same not_commit
  rcases executed.trace with same | ⟨event, recorded, same⟩
  · refine ⟨[], unmoved, same, by simp, by simp, fun holder key held => ?_⟩
    rcases held_executed permits executed not_commit held with still | ⟨rolled_back, _⟩
    · exact .inl still
    · rw [same] at rolled_back
      have impossible := congrArg List.length rolled_back
      simp at impossible
  · refine ⟨[(.run run, event)], unmoved, same, ?_, ?_, fun holder key held => ?_⟩
    · intro other record listed
      have entry := List.mem_singleton.mp listed
      cases entry
      cases recorded
      exact not_commit rfl
    · intro other key amount idempotency_key listed
      have entry := List.mem_singleton.mp listed
      cases entry
      cases recorded
      exact not_charge _ _ _ rfl
    · rcases held_executed permits executed not_commit held with still | ⟨rolled_back, rfl⟩
      · exact .inl still
      · rw [same] at rolled_back
        exact .inr (List.mem_singleton.mpr (List.cons.inj rolled_back).1.symm)

/-! ## A charge -/

theorem own_mem {event : Event} : event ∈ world.own run <-> (.run run, event) ∈ world.trace := by
  simp [World.own]

/-- Whoever holds a pending payment knows that all its earlier charges were rolled back. -/
theorem PaymentsKept.charge_allowed (kept : PaymentsKept world) {id : UUID} {amount : Money}
    {idempotency_key : String} (permits : PaymentPermits run (.charge_call id amount idempotency_key) world) :
    ChargeAllowed (.run run, .charge_called id amount idempotency_key) world.trace := by
  rcases permits.charging id amount idempotency_key rfl with ⟨⟨row, held, found, fresh, _⟩, first⟩
  have unended : forall other record final, (.run other, .committed record) ∈ world.trace ->
      (id, some final) ∈ record .payments -> ¬ Final final := by
    intro other record ended recorded listed final
    rcases kept.installed other record id ended recorded listed with ⟨later, found', grows⟩
    rw [found] at found'
    cases found'
    rw [grows.of_final final] at fresh
    exact fresh.not_final final
  intro run' key amount' idempotency_key' same
  cases same
  refine ⟨fun recent before other amount' idempotency_key' split => ?_, unended⟩
  have different : other ≠ run := by
    rintro rfl
    refine first.uncalled id amount' idempotency_key' (own_mem.mpr ?_)
    rw [split]
    exact List.mem_append_right _ List.mem_cons_self
  refine ⟨different, ?_⟩
  cases kept.charged recent before other id amount' idempotency_key' split with
  | holding held' => exact absurd (held'.unique held) different
  | undone rolled_back => exact rolled_back
  | ended record ended recorded installed final =>
      have listed : (.run other, .committed record) ∈ world.trace := by
        rw [split]
        exact List.mem_append_left _ recorded
      exact absurd final (unended other record ended listed installed)

theorem PaymentsKept.charge (kept : PaymentsKept world) {id : UUID} {amount : Money} {idempotency_key : String}
    (permits : PaymentPermits run (.charge_call id amount idempotency_key) world) :
    PaymentsKept (world.note (.run run) (.charge_called id amount idempotency_key)) where
  keyed := kept.keyed
  shaped := fun key row found => (kept.shaped key row found).of_unmoved (fun _ _ => rfl)
  attempted := kept.attempted
  delivered := kept.delivered
  unique := kept.unique
  drafted := kept.drafted
  installed := by
    intro other record key row recorded listed
    rcases List.mem_cons.mp recorded with same | before
    · cases same
    · exact kept.installed other record key row before listed
  charged := by
    intro later earlier other key amount' idempotency_key' split
    rcases split_cons split with ⟨rfl, same, rfl⟩ | ⟨rest, rfl, before⟩
    · cases same
      rcases permits.charging id amount idempotency_key rfl with ⟨⟨row, held, found, _⟩, _⟩
      exact .holding held row found
    · cases kept.charged rest earlier other key amount' idempotency_key' before with
      | holding held row found => exact .holding held row found
      | undone rolled_back => exact .undone (List.mem_cons_of_mem _ rolled_back)
      | ended record row recorded installed final =>
          exact .ended record row (List.mem_cons_of_mem _ recorded) installed final
  history := kept.history.cons (kept.charge_allowed permits)
  ends := kept.ends.cons (fun _ _ _ _ same => by cases same)
  recorded := by
    intro key row found
    rcases kept.recorded key row found with ⟨other, record, recorded, listed⟩
    exact ⟨other, record, List.mem_cons_of_mem _ recorded, listed⟩
  ordered := by
    intro other key amount' idempotency_key' listed
    rcases List.mem_cons.mp listed with same | before
    · cases same
      rcases permits.charging id amount idempotency_key rfl with ⟨⟨row, _, found, _, orders⟩, _⟩
      exact ⟨row, found, orders⟩
    · exact kept.ordered other key amount' idempotency_key' before

end Properties
end Payments
