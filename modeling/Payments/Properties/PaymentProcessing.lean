import Payments.Properties.PaymentAggregates
import Payments.Properties.PaymentDiscipline

namespace Payments
namespace Properties

open Concurrency Domain Infrastructure Application Prog UnitOfWork Payments.System

/-!
# Processing a payment

A run that has claimed a payment holds its row, then the attempt it has added,
then the delivery, and nothing else.  Since no other run can touch these rows,
the run knows at every point exactly what its commit would install.
-/

variable {deployment : Deployment} {world after : World} {run : RunId} {op : Op}

/-! ## What a transaction holds -/

/-- The run holds exactly this row of the table. -/
def Holds (name : TableName) (run : RunId) (id : UUID) (row : Row name) (world : World) : Prop :=
  forall key draft, (world.cell name key).lock = some (run, draft) <-> key = id ∧ draft = some row

/-- The run has added this row and no other one, or its session accepts nothing any more. -/
def Adding (name : TableName) (run : RunId) (row : Option (Row name)) (world : World) : Prop :=
  match row with
  | none => Away name run world
  | some row => world.refusing run = true ∨
      Holds name run row.id row world ∧ (world.cell name row.id).committed = none

/-- The run has claimed a payment and added an attempt and a delivery of it. -/
structure Working (run : RunId) (key : UUID) (row draft : PaymentModel) (attempt : Option PaymentAttemptModel)
    (delivery : Option WebhookDeliveryModel) (world : World) : Prop where
  payments : Holds .payments run key draft world
  found : (world.cell .payments key).committed = some row
  fresh : Fresh row
  attempts : Adding .payment_attempts run attempt world
  deliveries : Adding .webhook_deliveries run delivery world

theorem lock_iff {name : TableName} {key : UUID} {draft : Option (Row name)}
    (untouched : World.Untouched run world after) :
    (after.cell name key).lock = some (run, draft) <-> (world.cell name key).lock = some (run, draft) := by
  constructor
  · intro locked
    have same := lock_untouched untouched ⟨draft, locked⟩
    exact same ▸ locked
  · intro locked
    have same : after.cell name key = world.cell name key := untouched.tables name key (.inl ⟨draft, locked⟩)
    rw [same]
    exact locked

theorem Holds.stable {name : TableName} {id : UUID} {row : Row name} (holds : Holds name run id row world)
    (untouched : World.Untouched run world after) : Holds name run id row after :=
  fun key draft => (lock_iff untouched).trans (holds key draft)

theorem Holds.committed_same {name : TableName} {id : UUID} {row : Row name} (holds : Holds name run id row world)
    (untouched : World.Untouched run world after) :
    (after.cell name id).committed = (world.cell name id).committed := by
  have locked := (holds id (some row)).mpr ⟨rfl, rfl⟩
  have same : after.cell name id = world.cell name id := untouched.tables name id (.inl ⟨_, locked⟩)
  rw [same]

theorem Adding.stable {name : TableName} {row : Option (Row name)} (adding : Adding name run row world)
    (untouched : World.Untouched run world after) : Adding name run row after := by
  cases row with
  | none => exact Away.stable adding untouched
  | some row =>
      rcases adding with refusing | ⟨holds, vacant⟩
      · exact .inl (untouched.refusing.trans refusing)
      · exact .inr ⟨holds.stable untouched, (holds.committed_same untouched).trans vacant⟩

theorem Working.stable {key : UUID} {row draft : PaymentModel} {attempt : Option PaymentAttemptModel}
    {delivery : Option WebhookDeliveryModel} (working : Working run key row draft attempt delivery world)
    (untouched : World.Untouched run world after) : Working run key row draft attempt delivery after where
  payments := working.payments.stable untouched
  found := (working.payments.committed_same untouched).trans working.found
  fresh := working.fresh
  attempts := working.attempts.stable untouched
  deliveries := working.deliveries.stable untouched

/-- A table and a session that stay the same are as before. -/
theorem Adding.of_same {name : TableName} {row : Option (Row name)} (adding : Adding name run row world)
    (cells : forall key, after.cell name key = world.cell name key)
    (refusing : world.refusing run = true -> after.refusing run = true) : Adding name run row after := by
  cases row with
  | none => exact fun key held => adding key (cells key ▸ held)
  | some row =>
      rcases adding with refused | ⟨holds, vacant⟩
      · exact .inl (refusing refused)
      · exact .inr ⟨fun key draft => by rw [cells]; exact holds key draft, by rw [cells]; exact vacant⟩

theorem Working.of_same {key : UUID} {row draft : PaymentModel} {attempt : Option PaymentAttemptModel}
    {delivery : Option WebhookDeliveryModel} (working : Working run key row draft attempt delivery world)
    (tables : after.tables = world.tables) (refusing : after.refusing run = world.refusing run) :
    Working run key row draft attempt delivery after := by
  have cells : forall name key, after.cell name key = world.cell name key := by
    intro name key
    rw [World.cell, World.cell, tables]
  refine ⟨fun id draft => ?_, ?_, working.fresh, working.attempts.of_same (cells _) (fun same => refusing.trans same),
    working.deliveries.of_same (cells _) (fun same => refusing.trans same)⟩
  · rw [cells]
    exact working.payments id draft
  · rw [cells]
    exact working.found

/-- One written row of a table where nothing else is held. -/
theorem holds_written {name : TableName} {id : UUID} {row : Row name}
    (only : forall key, key ≠ id -> ¬ (world.cell name key).HeldBy run)
    (written : after.cell name id = (world.cell name id).write run (some row))
    (others : forall key, key ≠ id -> after.cell name key = world.cell name key) : Holds name run id row after := by
  intro key draft
  by_cases here : key = id
  · subst here
    rw [written]
    constructor
    · intro locked
      cases locked
      exact ⟨rfl, rfl⟩
    · rintro ⟨_, rfl⟩
      rfl
  · rw [others key here]
    constructor
    · intro locked
      exact absurd ⟨draft, locked⟩ (only key here)
    · rintro ⟨impossible, _⟩
      exact absurd impossible here

theorem Holds.only {name : TableName} {id key : UUID} {row : Row name} (holds : Holds name run id row world)
    (different : key ≠ id) : ¬ (world.cell name key).HeldBy run := by
  rintro ⟨draft, locked⟩
  exact different ((holds key draft).mp locked).1

theorem Holds.held {name : TableName} {id : UUID} {row : Row name} (holds : Holds name run id row world) :
    (world.cell name id).HeldBy run :=
  ⟨some row, (holds id (some row)).mpr ⟨rfl, rfl⟩⟩

theorem Holds.visible {name : TableName} {id : UUID} {row : Row name} (holds : Holds name run id row world) :
    (world.cell name id).visible run = some row :=
  Cell.visible_of_lock ((holds id (some row)).mpr ⟨rfl, rfl⟩)

/-! ## What a run has said -/

/-- The run has neither charged anything nor committed a change. -/
structure Unused (own : List Event) : Prop where
  uncharged : Uncharged own
  unchanged : forall record, .committed record ∈ own -> forall name, record name = []

def Called (key : UUID) (own : List Event) : Prop :=
  Exists fun amount => Exists fun text => .charge_called key amount text ∈ own

def Answered (key : UUID) (result : GatewayResult) (own : List Event) : Prop :=
  Called key own ∧ .charge_returned key result ∈ own

/-- A working run, with what it has said so far. -/
def working_run (run : RunId) (key : UUID) (row draft : PaymentModel) (attempt : Option PaymentAttemptModel)
    (delivery : Option WebhookDeliveryModel) (said : List Event -> Prop) :
    (payment_discipline deployment).Assertion run :=
  knowing run (fun world => Working run key row draft attempt delivery world ∧ said (world.own run))
    (fun _ _ untouched _ known => ⟨known.1.stable untouched, untouched.own ▸ known.2⟩)

/-- After an exception nothing is known but that it is not a conflict of versions. -/
def raising (run : RunId) (raised : Error) : (payment_discipline deployment).Assertion run :=
  .fact (tame raised = true)

/-- Neither a charge nor the end of a transaction. -/
def uneventful : Event -> Bool
  | .charge_called _ _ _ => false
  | .charge_returned _ _ => false
  | .rolled_back => false
  | .committed _ => false
  | _ => true

/-- What other events add nothing to. -/
def Lasts (said : List Event -> Prop) : Prop :=
  forall event own, uneventful event = true -> said own -> said (event :: own)

theorem lasts_uncharged : Lasts Uncharged := by
  intro event own quiet uncharged
  refine ⟨fun key amount text listed => ?_, fun key result listed => ?_, fun listed => ?_⟩
  · rcases List.mem_cons.mp listed with rfl | before
    · cases quiet
    · exact uncharged.uncalled key amount text before
  · rcases List.mem_cons.mp listed with rfl | before
    · cases quiet
    · exact uncharged.unanswered key result before
  · rcases List.mem_cons.mp listed with rfl | before
    · cases quiet
    · exact uncharged.unfinished before

theorem lasts_unused : Lasts Unused := by
  intro event own quiet unused
  refine ⟨lasts_uncharged event own quiet unused.uncharged, fun record listed => ?_⟩
  rcases List.mem_cons.mp listed with rfl | before
  · cases quiet
  · exact unused.unchanged record before

/-- An event that is not a write of a payment leaves it unwritten. -/
theorem unwritten_cons {event : Event} {own : List Event}
    (different : forall statement row rows, event ≠ .updated .payments statement (row :: rows))
    (unwritten : Unwritten own) : Unwritten (event :: own) := by
  intro statement row rows listed
  rcases List.mem_cons.mp listed with same | before
  · exact different statement row rows same.symm
  · exact unwritten statement row rows before

theorem lasts_answered (key : UUID) (result : GatewayResult) : Lasts (Answered key result) := by
  rintro event own quiet ⟨⟨amount, text, called⟩, answered⟩
  exact ⟨⟨amount, text, List.mem_cons_of_mem _ called⟩, List.mem_cons_of_mem _ answered⟩

/-! ## Operations of a working run -/

section

variable {key : UUID} {row draft : PaymentModel} {attempt : Option PaymentAttemptModel}
  {delivery : Option WebhookDeliveryModel} {said : List Event -> Prop}

/-- The rule for an operation: an exception of the environment is no conflict of versions. -/
theorem operation_triple {op : Op} {pre : (payment_discipline deployment).Assertion run}
    {post : op.Answer -> (payment_discipline deployment).Assertion run}
    (permitted : forall world, PaymentsKept world -> pre world -> PaymentPermits run op world)
    (returns : forall world after value, PaymentsKept world -> pre world ->
      World.Executed run world op after (.ok value) -> post value after) :
    (payment_discipline deployment).Triple pre (await op) post (raising run) :=
  Discipline.Triple.perform permitted
    (fun state _ after value kept known ran _ _ => returns state after value kept known (service_executed ran))
    (fun _ _ _ _ _ _ ran _ _ => tame_external (service_executed ran).external)

theorem now_triple (lasts : Lasts said) :
    (payment_discipline deployment).Triple (working_run run key row draft attempt delivery said) (await .now)
      (fun _ => working_run run key row draft attempt delivery said) (raising run) := by
  refine operation_triple (fun world _ _ => ?_) (fun world after value _ known executed => ?_)
  · exact (plain_of_ne (by simp) (by simp) (by simp) (by simp) (by simp) (by simp) (by simp) (by simp)).plain.permits
      (by simp) (by simp)
  · cases executed with
    | now reading =>
        refine ⟨known.1.of_same rfl rfl, ?_⟩
        rw [World.own_note_self]
        exact lasts _ _ rfl known.2

theorem uuid7_triple :
    (payment_discipline deployment).Triple (working_run run key row draft attempt delivery said) (await .uuid7)
      (fun _ => working_run run key row draft attempt delivery said) (raising run) := by
  refine operation_triple (fun world _ _ => ?_) (fun world after value _ known executed => ?_)
  · exact (plain_of_ne (by simp) (by simp) (by simp) (by simp) (by simp) (by simp) (by simp) (by simp)).plain.permits
      (by simp) (by simp)
  · cases executed with
    | uuid7 id fresh => exact ⟨known.1.of_same rfl rfl, known.2⟩

/-- A payment that is being processed for the first time has no attempt yet. -/
theorem attempts_triple :
    (payment_discipline deployment).Triple (working_run run key row draft none none said)
      (SqlAlchemyAttemptRepository.get_by_payment_id key)
      (fun existing => (working_run run key row draft none none said).both (.fact (existing = []))) (raising run) := by
  have selected : (payment_discipline deployment).Triple (working_run run key row draft none none said)
      (await (.select .payment_attempts (.attempts_by_payment_id key)))
      (fun (rows : List PaymentAttemptModel) =>
        (working_run run key row draft none none said).both (.fact (rows = []))) (raising run) := by
    refine operation_triple (fun world _ _ => ?_) (fun world after rows kept known executed => ?_)
    · exact (plain_of_ne (by simp) (by simp) (by simp) (by simp) (by simp) (by simp) (by simp)
        (by simp)).plain.permits (by simp) (by simp)
    · cases executed with
      | selected name query accepting =>
          refine ⟨known, ?_⟩
          have untried : Untried key world := by
            cases kept.shaped key row known.1.found with
            | pending fresh untried => exact untried
            | ended final => exact absurd final known.1.fresh.not_final
          have none_selected : (world.tables .payment_attempts).select run
              (Query.attempts_by_payment_id key).condition = [] := by
            refine List.eq_nil_iff_forall_not_mem.mpr (fun found listed => ?_)
            rcases Table.mem_select.mp listed with ⟨id, seen, selected⟩
            have away : Away .payment_attempts run world := known.1.attempts
            have committed : (world.cell .payment_attempts id).committed = some found :=
              (Cell.visible_of_not_heldBy (away id)).symm.trans seen
            exact untried.attempts id found committed (of_decide_eq_true selected)
          rw [none_selected]
          rfl
  refine Discipline.Triple.bind selected (fun rows => Discipline.Triple.ret (fun _ _ known => ?_))
  exact ⟨known.1, by rw [known.2]; rfl⟩

/-! ## Writes of a working run -/

/-- A row that is added is held afterwards, or the session accepts nothing any more. -/
theorem added_row {name : TableName} {new : Row name} (away : Away name run world)
    (executed : World.Executed run world (.add name new) after (.ok ())) :
    Adding name run (some new) after ∧
      (forall found, found ≠ name -> forall id, after.cell found id = world.cell found id) ∧
      (world.refusing run = true -> after.refusing run = true) := by
  cases executed with
  | added name new storable unlisted =>
      refine ⟨.inr ⟨holds_written (fun id _ => away id) ?_ (fun id different => ?_), ?_⟩,
        fun found different id => World.cell_set_table_of_ne _ different id, fun same => same⟩
      · rw [World.cell_set_table_self, Table.put_cell_self]
        rfl
      · rw [World.cell_set_table_self, Table.put_cell_of_ne new different]
        rfl
      · rw [World.cell_set_table_self, Table.put_cell_self, (world.tables name).complete _ unlisted]
        rfl
  | add_refused name new =>
      exact ⟨.inl (Function.update_self _ _ _), fun _ _ _ => rfl, fun _ => Function.update_self _ _ _⟩

theorem Holds.of_cells {name : TableName} {id : UUID} {new : Row name} (holds : Holds name run id new world)
    (cells : forall found, after.cell name found = world.cell name found) : Holds name run id new after := by
  intro found held
  rw [cells]
  exact holds found held

theorem Working.added_attempt {new : PaymentAttemptModel} (working : Working run key row draft none none world)
    (executed : World.Executed run world (.add .payment_attempts new) after (.ok ())) :
    Working run key row draft (some new) none after := by
  rcases added_row working.attempts executed with ⟨adding, others, refusing⟩
  refine ⟨working.payments.of_cells (others _ (by simp)), ?_, working.fresh, adding, ?_⟩
  · rw [others _ (by simp)]
    exact working.found
  · exact working.deliveries.of_same (others _ (by simp)) refusing

theorem Working.added_delivery {new : WebhookDeliveryModel} (working : Working run key row draft attempt none world)
    (executed : World.Executed run world (.add .webhook_deliveries new) after (.ok ())) :
    Working run key row draft attempt (some new) after := by
  rcases added_row working.deliveries executed with ⟨adding, others, refusing⟩
  refine ⟨working.payments.of_cells (others _ (by simp)), ?_, working.fresh, ?_, adding⟩
  · rw [others _ (by simp)]
    exact working.found
  · exact working.attempts.of_same (others _ (by simp)) refusing

theorem accepting_updated {name : TableName} {statement : Update name} {rows : List (Row name)}
    (executed : World.Executed run world (.update name statement) after (.ok rows)) :
    world.refusing run = false ∧ after.refusing run = false := by
  cases executed with
  | updated name statement time table rows changed accepting storable => exact ⟨accepting, accepting⟩

/-- The end of the charge is written to the payment the run holds. -/
theorem Working.finished (working : Working run key row (Properties.working row) attempt delivery world)
    (keyed : World.Keyed world) {target : PaymentStatus} {time : Datetime} {rows : List PaymentModel}
    (executed : World.Executed run world
      (.update .payments (.payment_transition key 1 .PROCESSING target (some time))) after (.ok rows)) :
    (rows.length == 1) = true ∧
      Working run key row (Properties.finished row target time) attempt delivery after := by
  have seen := working.payments.visible
  have own : row.id = key := keyed .payments key row (.committed working.found)
  have selected : (Update.payment_transition key 1 .PROCESSING target (some time)).condition
      (Properties.working row) = true :=
    transition_condition.mpr ⟨own, rfl, rfl⟩
  have accepting := accepting_updated executed
  cases executed.updated_at keyed transition_named with
  | missed unmatched =>
      have impossible := unmatched _ seen
      rw [selected] at impossible
      cases impossible
  | matched found now seen' selected' free single written others =>
      rw [seen] at seen'
      cases seen'
      rw [ended_as] at written
      refine ⟨by rw [single]; rfl, ?_, ?_, working.fresh, ?_, ?_⟩
      · refine holds_written (fun id different => working.payments.only different) written (fun id different => ?_)
        exact others .payments id (fun _ => different)
      · rw [written]
        exact working.found
      · exact working.attempts.of_same (fun id => others _ id (by simp))
          (fun refusing => by rw [accepting.1] at refusing; cases refusing)
      · exact working.deliveries.of_same (fun id => others _ id (by simp))
          (fun refusing => by rw [accepting.1] at refusing; cases refusing)

/-- The attempt as the statement saves it. -/
def progressed (row : PaymentAttemptModel) (attempt : PaymentAttempt) : PaymentAttemptModel :=
  (Update.attempt_progress attempt).values 0 row

theorem Working.progressed {old : PaymentAttemptModel} {saved : PaymentAttempt}
    (working : Working run key row draft (some old) none world) (keyed : World.Keyed world)
    (same : old.id = saved.id) {rows : List PaymentAttemptModel}
    (executed : World.Executed run world (.update .payment_attempts (.attempt_progress saved)) after (.ok rows)) :
    Working run key row draft (some (Properties.progressed old saved)) none after ∧
      after.refusing run = false := by
  have accepting := accepting_updated executed
  rcases working.attempts with refusing | ⟨holds, vacant⟩
  · rw [accepting.1] at refusing
    cases refusing
  · have named : forall found : PaymentAttemptModel,
        (Update.attempt_progress saved).condition found = true -> @Row.id .payment_attempts found = old.id := by
      intro found selected
      exact (of_decide_eq_true selected).trans same.symm
    have selected : (Update.attempt_progress saved).condition old = true := decide_eq_true same
    cases executed.updated_at keyed named with
    | missed unmatched =>
        have impossible := unmatched old holds.visible
        rw [selected] at impossible
        cases impossible
    | matched found now seen selected' free single written others =>
        have found_same : some old = some found := holds.visible.symm.trans seen
        cases found_same
        refine ⟨⟨working.payments.of_cells (fun id => others _ id (by simp)), ?_, working.fresh, ?_, ?_⟩,
          accepting.2⟩
        · rw [others .payments key (by simp)]
          exact working.found
        · refine .inr ⟨holds_written (fun id different => holds.only different) written (fun id different => ?_), ?_⟩
          · exact others .payment_attempts id (fun _ => different)
          · have kept : (after.cell .payment_attempts old.id).committed = none := by
              rw [written]
              exact vacant
            exact kept
        · exact working.deliveries.of_same (fun id => others _ id (by simp))
            (fun refusing => by rw [accepting.1] at refusing; cases refusing)

/-! ## From the answer of the gateway to the commit -/

theorem transition_permits {id : UUID} {version : Nat} {status target : PaymentStatus} {time : Option Datetime}
    {payment marked : Payment}
    (moving : (version = 0 ∧ status = .PENDING ∧ target = .PROCESSING ∧ time = none ∧
        ¬ (world.cell .payments id).HeldBy run ∧ Unwritten (world.own run)) ∨
      (version = 1 ∧ status = .PROCESSING ∧ target.terminal = true ∧ time.isSome = true))
    (marks : Marks payment target time marked) (handled : HandledFrom id payment)
    (same : payment.id = id ∧ payment.version = version ∧ payment.status = status ∧ payment.processed_at = none) :
    PaymentPermits run (.update .payments (.payment_transition id version status target time)) world where
  inserting := by simp
  unadded := by simp
  unlocked := by simp
  unclaimed := by simp
  moving := by
    intro id' version' status' target' time' operation
    cases operation
    exact moving
  marking := by
    intro id' version' status' target' time' operation
    cases operation
    exact ⟨payment, marked, marks, handled, same⟩
  committing := by simp
  closing := by simp
  charging := by simp
  awaiting := by simp
  answering := by simp

/-- `mark_succeeded` and `mark_failed` of the repository find the payment as the run has left it. -/
theorem finish_triple (lasts : Lasts said) {target : PaymentStatus} {time : Datetime}
    {payment marked : Payment} (terminal : target.terminal = true) (marks : Marks payment target (some time) marked)
    (handled : HandledFrom key payment)
    (same : payment.id = key ∧ payment.version = 1 ∧ payment.status = .PROCESSING ∧ payment.processed_at = none) :
    (payment_discipline deployment).Triple (working_run run key row (Properties.working row) attempt delivery said)
      (do
        let rows : List PaymentModel ←
          await (.update .payments (.payment_transition key 1 .PROCESSING target (some time)))
        return rows.length == 1)
      (fun claimed => (working_run run key row (Properties.finished row target time) attempt delivery said).both
        (.fact (claimed = true))) (raising run) := by
  have updated : (payment_discipline deployment).Triple
      (working_run run key row (Properties.working row) attempt delivery said)
      (await (.update .payments (.payment_transition key 1 .PROCESSING target (some time))))
      (fun (rows : List PaymentModel) =>
        (working_run run key row (Properties.finished row target time) attempt delivery said).both
          (.fact ((rows.length == 1) = true))) (raising run) := by
    refine operation_triple (fun world _ _ => ?_) (fun world after rows kept known executed => ?_)
    · exact transition_permits (.inr ⟨rfl, rfl, terminal, rfl⟩) marks handled same
    · rcases known.1.finished kept.keyed executed with ⟨single, working⟩
      refine ⟨⟨working, ?_⟩, single⟩
      rw [World.own_updated executed]
      exact lasts _ _ rfl known.2
  exact Discipline.Triple.bind updated (fun rows => Discipline.Triple.ret (fun _ _ known => known))

/-- The aggregate of a run that is about to charge, or has charged, the payment. -/
structure Charging (row : PaymentModel) (payment : Payment) (attempt : PaymentAttempt) : Prop where
  fresh : Fresh row
  begun : Exists fun loaded => Exists fun processing => Exists fun attempt_id => Exists fun correlation_id =>
    Exists fun started_at => row.to_domain = .ok loaded ∧ loaded.mark_processing started_at = .ok processing ∧
      (processing.hydrate_attempts []).begin_attempt attempt_id correlation_id started_at = .ok (payment, attempt)

/-- What the statements after the charge use of the aggregate. -/
structure Charged (row : PaymentModel) (payment : Payment) (attempt : PaymentAttempt) : Prop where
  id : payment.id = row.id
  status : payment.status = .PROCESSING
  version : payment.version = 1
  processed_at : payment.processed_at = none
  orders : Orders row payment.money payment.idempotency_key.value
  last : payment.attempts.getLast? = some attempt
  payment_id : attempt.payment_id = row.id
  number : attempt.attempt_number = 1

theorem Charging.charged {payment : Payment} {attempt : PaymentAttempt} (charging : Charging row payment attempt) :
    Charged row payment attempt := by
  rcases charging.begun with ⟨loaded, processing, attempt_id, correlation_id, started_at, load, mark, begin⟩
  have loads := loaded_from load
  have marked := marked_processing mark
  have begun := begun_with begin
  have processed_at : processing.processed_at = none :=
    marked.processed_at.trans (loads.processed_at.trans charging.fresh.processed_at)
  have version : processing.version = 1 := by
    rw [marked.version, loads.version, charging.fresh.version]
  refine ⟨begun.id.trans (marked.id.trans loads.id), begun.status.trans marked.status,
    begun.version.trans version, begun.processed_at.trans processed_at, ?_, begun.last,
    begun.payment_id.trans (marked.id.trans loads.id), begun.number⟩
  have money : payment.money = loaded.money := begun.money.trans marked.money
  have idempotency_key : payment.idempotency_key = loaded.idempotency_key :=
    begun.idempotency_key.trans marked.idempotency_key
  rw [money, idempotency_key]
  exact loads.orders

/-- The settled attempt and aggregate belong to the row that is written. -/
structure Settles (row : PaymentModel) (attempt saved : PaymentAttempt) (result : GatewayResult) (time : Datetime) :
    Prop where
  id : saved.id = attempt.id
  status : saved.status.value = (verdict result).value
  aggregated : Aggregated row (Properties.finished row (verdict result) time) result time

theorem settles_succeeded {payment ended marked : Payment} {attempt saved : PaymentAttempt}
    {result : GatewayResult} {time : Datetime} (charging : Charging row payment attempt)
    (success : result.success = true) (attempted : payment.succeed_attempt time result = .ok (ended, saved))
    (done : ended.mark_succeeded time = .ok marked) : Settles row attempt saved result time := by
  have charged := charging.charged
  have ends := ended_succeeded charged.last attempted
  have marks := marked_succeeded done
  have same : verdict result = .SUCCEEDED := by simp [verdict, success]
  refine ⟨ends.attempt_id, by rw [ends.target, same]; rfl, ?_⟩
  rcases charging.begun with ⟨loaded, processing, attempt_id, correlation_id, started_at, load, mark, begin⟩
  refine ⟨loaded, attempt_id, correlation_id, started_at, marked, load, ?_, ?_⟩
  · simp only [charged_aggregate, mark, ok_bind, begin, success, if_true, attempted, done]
  · rw [same]
    exact ⟨marks.status.symm, by rw [marks.version, ends.version, charged.version]; rfl,
      by rw [marks.processed_at]; rfl⟩

theorem settles_failed {payment ended marked : Payment} {attempt saved : PaymentAttempt}
    {result : GatewayResult} {time : Datetime} (charging : Charging row payment attempt)
    (declined : result.success = false) (attempted : payment.fail_attempt time result.error = .ok (ended, saved))
    (done : ended.mark_failed time result.error = .ok marked) : Settles row attempt saved result time := by
  have charged := charging.charged
  have ends := ended_failed charged.last attempted
  have marks := marked_failed done
  have same : verdict result = .FAILED := by simp [verdict, declined]
  refine ⟨ends.attempt_id, by rw [ends.target, same]; rfl, ?_⟩
  rcases charging.begun with ⟨loaded, processing, attempt_id, correlation_id, started_at, load, mark, begin⟩
  refine ⟨loaded, attempt_id, correlation_id, started_at, marked, load, ?_, ?_⟩
  · simp only [charged_aggregate, mark, ok_bind, begin, declined, Bool.false_eq_true, if_false, attempted, done]
  · rw [same]
    exact ⟨marks.status.symm, by rw [marks.version, ends.version, charged.version]; rfl,
      by rw [marks.processed_at]; rfl⟩

end

end Properties
end Payments
