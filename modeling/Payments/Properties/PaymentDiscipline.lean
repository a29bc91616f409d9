import Payments.Properties.PaymentCommits

namespace Payments
namespace Properties

open Concurrency Domain Infrastructure Application Prog UnitOfWork Payments.System

/-!
# Programs beside the processing of payments

Reading a payment, delivering webhooks and publishing the outbox hold no
payment and no attempt, so their commits install nothing that matters here.
Creating a payment holds one that nobody else has seen.  All of them ask for
permitted operations only.
-/

variable {deployment : Deployment} {world after : World} {run : RunId} {op : Op}

/-- An assertion of the payment discipline. -/
def knowing (run : RunId) (holds : World -> Prop)
    (stable : forall before after, World.Untouched run before after -> PaymentsEvolve before after ->
      holds before -> holds after) : (payment_discipline deployment).Assertion run where
  holds := holds
  stable := fun before rely _ => stable _ _ rely.1 rely.2 before

/-- The transaction of the run would install new payments and progress of deliveries. -/
structure Plain (run : RunId) (world : World) : Prop where
  attempts : Away .payment_attempts run world
  payments : forall key draft, (world.cell .payments key).lock = some (run, draft) ->
    (world.cell .payments key).committed = none
  deliveries : forall key draft, (world.cell .webhook_deliveries key).lock = some (run, draft) ->
    Exists fun old => Exists fun new => (world.cell .webhook_deliveries key).committed = some old ∧
      draft = some new ∧ SameDelivery old new

/-- Operations that charge nothing and change no payment and no attempt. -/
structure PlainOp (op : Op) : Prop where
  inserts : forall row, op = .insert_on_conflict_do_nothing (some row) -> Fresh row
  adds : forall name row, op = .add name row -> name = .outbox_messages
  updates : forall name statement, op = .update name statement ->
    name = .webhook_deliveries ∨ name = .outbox_messages
  claims : forall name query limit statement, op = .update_claimable name query limit statement ->
    name = .outbox_messages
  locks : forall name query limit, op = .select_for_update name query limit -> name = .webhook_deliveries
  unpaid : forall id amount text, op ≠ .charge_call id amount text
  unawaited : forall id, op ≠ .charge_return id
  unanswered : op ≠ .ack

theorem PlainOp.permits (neutral : PlainOp op) (committing : op = .commit -> Plain run world)
    (closing : op = .close -> Away .payments run world) : PaymentPermits run op world where
  inserting := neutral.inserts
  unadded := fun row same => by cases neutral.adds _ _ same
  unlocked := fun query limit same => by cases neutral.locks _ _ _ same
  unclaimed := fun query limit statement same => by cases neutral.claims _ _ _ _ same
  moving := fun id version status target time same => by
    rcases neutral.updates _ _ same with impossible | impossible <;> cases impossible
  marking := fun id version status target time same => by
    rcases neutral.updates _ _ same with impossible | impossible <;> cases impossible
  committing := fun same =>
    .inr (.plain (committing same).attempts (committing same).payments (committing same).deliveries)
  closing := closing
  charging := fun id amount text same => absurd same (neutral.unpaid id amount text)
  awaiting := fun id same => absurd same (neutral.unawaited id)
  answering := fun same => absurd same neutral.unanswered

theorem same_delivery_progress (statement : Update .webhook_deliveries) (now : Datetime)
    (row : WebhookDeliveryModel) : SameDelivery row (statement.values now row) := by
  cases statement
  exact ⟨rfl, rfl⟩

/-- What a statement makes of a delivery the run sees is progress of the committed one. -/
theorem Plain.progress (plain : Plain run world) {key : UUID} {row new : WebhookDeliveryModel}
    (seen : (world.cell .webhook_deliveries key).visible run = some row) (same : SameDelivery row new) :
    Exists fun old => (world.cell .webhook_deliveries key).committed = some old ∧ SameDelivery old new := by
  by_cases mine : (world.cell .webhook_deliveries key).HeldBy run
  · rcases mine with ⟨draft, locked⟩
    rw [Cell.visible_of_lock locked] at seen
    rcases plain.deliveries key draft locked with ⟨old, held, found, drafted, same'⟩
    rw [seen] at drafted
    cases drafted
    exact ⟨old, found, same.1.trans same'.1, same.2.trans same'.2⟩
  · rw [Cell.visible_of_not_heldBy mine] at seen
    exact ⟨row, seen, same⟩

theorem Plain.executed (plain : Plain run world) (neutral : PlainOp op) {answer : Except Error op.Answer}
    (executed : World.Executed run world op after answer) : Plain run after where
  attempts := by
    rintro key held
    cases executed.cell .payment_attempts key with
    | kept same => exact plain.attempts key (same ▸ held)
    | locked query limit row operation => cases neutral.locks _ _ _ operation
    | updated statement time row operation =>
        rcases neutral.updates _ _ operation with impossible | impossible <;> cases impossible
    | claimed query limit statement time row operation => cases neutral.claims _ _ _ _ operation
    | deleted cutoff row operation table => cases table
    | added row operation => cases neutral.adds _ _ operation
    | inserted row operation table => cases table
    | committed operation same => exact Cell.not_heldBy_commit (same ▸ held)
    | released operation same => exact Cell.not_heldBy_rollback (same ▸ held)
  payments := by
    intro key draft locked
    cases executed.cell .payments key with
    | kept same => rw [same] at locked ⊢; exact plain.payments key draft locked
    | locked query limit row operation => cases neutral.locks _ _ _ operation
    | updated statement time row operation =>
        rcases neutral.updates _ _ operation with impossible | impossible <;> cases impossible
    | claimed query limit statement time row operation => cases neutral.claims _ _ _ _ operation
    | deleted cutoff row operation table => cases table
    | added row operation => cases neutral.adds _ _ operation
    | inserted row operation table own vacant same => rw [same]; rfl
    | committed operation same => exact absurd ⟨draft, same ▸ locked⟩ Cell.not_heldBy_commit
    | released operation same => exact absurd ⟨draft, same ▸ locked⟩ Cell.not_heldBy_rollback
  deliveries := by
    intro key draft locked
    cases executed.cell .webhook_deliveries key with
    | kept same => rw [same] at locked ⊢; exact plain.deliveries key draft locked
    | locked query limit row operation seen selected free same =>
        rw [same] at locked ⊢
        cases locked
        rcases plain.progress seen ⟨rfl, rfl⟩ with ⟨old, found, related⟩
        exact ⟨old, row, found, rfl, related⟩
    | updated statement time row operation seen selected free same =>
        rw [same] at locked ⊢
        cases locked
        rcases plain.progress seen (same_delivery_progress statement time row) with ⟨old, found, related⟩
        exact ⟨old, _, found, rfl, related⟩
    | claimed query limit statement time row operation => cases neutral.claims _ _ _ _ operation
    | deleted cutoff row operation table => cases table
    | added row operation => cases neutral.adds _ _ operation
    | inserted row operation table => cases table
    | committed operation same => exact absurd ⟨draft, same ▸ locked⟩ Cell.not_heldBy_commit
    | released operation same => exact absurd ⟨draft, same ▸ locked⟩ Cell.not_heldBy_rollback

/-! ## Stability -/

theorem lock_untouched {name : TableName} {key : UUID} (untouched : World.Untouched run world after)
    (held : (after.cell name key).HeldBy run) : after.cell name key = world.cell name key :=
  untouched.tables name key (.inr held)

theorem Away.stable {name : TableName} (away : Away name run world)
    (untouched : World.Untouched run world after) : Away name run after := by
  intro key held
  have same := lock_untouched untouched held
  exact away key (same ▸ held)

theorem Plain.stable (plain : Plain run world) (untouched : World.Untouched run world after) :
    Plain run after where
  attempts := plain.attempts.stable untouched
  payments := by
    intro key draft locked
    have same := lock_untouched untouched ⟨draft, locked⟩
    rw [same] at locked ⊢
    exact plain.payments key draft locked
  deliveries := by
    intro key draft locked
    have same := lock_untouched untouched ⟨draft, locked⟩
    rw [same] at locked ⊢
    exact plain.deliveries key draft locked

def plain (run : RunId) : (payment_discipline deployment).Assertion run :=
  knowing run (Plain run) (fun _ _ untouched _ known => known.stable untouched)

/-- A run that holds no payment either. -/
structure Apart (run : RunId) (world : World) : Prop where
  plain : Plain run world
  payments : Away .payments run world

def apart (run : RunId) : (payment_discipline deployment).Assertion run :=
  knowing run (Apart run) (fun _ _ untouched _ known =>
    ⟨known.plain.stable untouched, known.payments.stable untouched⟩)

theorem Apart.executed (apart : Apart run world) (neutral : PlainOp op)
    (not_insert : forall row, op ≠ .insert_on_conflict_do_nothing (some row)) {answer : Except Error op.Answer}
    (executed : World.Executed run world op after answer) : Apart run after := by
  refine ⟨apart.plain.executed neutral executed, fun key held => ?_⟩
  cases executed.cell .payments key with
  | kept same => exact apart.payments key (same ▸ held)
  | locked query limit row operation => cases neutral.locks _ _ _ operation
  | updated statement time row operation =>
      rcases neutral.updates _ _ operation with impossible | impossible <;> cases impossible
  | claimed query limit statement time row operation => cases neutral.claims _ _ _ _ operation
  | deleted cutoff row operation table => cases table
  | added row operation => cases neutral.adds _ _ operation
  | inserted row operation table => exact absurd operation (not_insert row)
  | committed operation same => exact Cell.not_heldBy_commit (same ▸ held)
  | released operation same => exact Cell.not_heldBy_rollback (same ▸ held)

/-- Operations that a run without any payment may call at any time. -/
structure ApartOp (op : Op) : Prop where
  plain : PlainOp op
  not_insert : forall row, op ≠ .insert_on_conflict_do_nothing (some row)

theorem apart_triple {X : Type} {program : Program X} (calls : program.OnlyCalls ApartOp) :
    (payment_discipline deployment).Triple (apart run) program (fun _ => apart run) (fun _ => apart run) :=
  Discipline.Triple.of_onlyCalls (apart run)
    (fun _ neutral _ _ known => neutral.plain.permits (fun _ => known.plain) (fun _ => known.payments))
    (fun _ neutral _ _ _ _ _ known ran _ => known.executed neutral.plain neutral.not_insert (World.exec_executed ran))
    (fun _ _ _ known => known) (fun _ _ _ known => known) calls

theorem plain_triple {X : Type} {program : Program X}
    (calls : program.OnlyCalls (fun (op : Op) => PlainOp op ∧ op ≠ .close)) :
    (payment_discipline deployment).Triple (plain run) program (fun _ => plain run) (fun _ => plain run) :=
  Discipline.Triple.of_onlyCalls (plain run)
    (fun _ neutral _ _ known => neutral.1.permits (fun _ => known) (fun same => absurd same neutral.2))
    (fun _ neutral _ _ _ _ _ known ran _ => known.executed neutral.1 (World.exec_executed ran))
    (fun _ _ _ known => known) (fun _ _ _ known => known) calls

/-! ## The operations of the programs -/

theorem plain_of_ne (inserts : forall row, op ≠ .insert_on_conflict_do_nothing (some row))
    (adds : forall name row, op ≠ .add name row) (updates : forall name statement, op ≠ .update name statement)
    (claims : forall name query limit statement, op ≠ .update_claimable name query limit statement)
    (locks : forall name query limit, op ≠ .select_for_update name query limit)
    (unpaid : forall id amount text, op ≠ .charge_call id amount text)
    (unawaited : forall id, op ≠ .charge_return id) (unanswered : op ≠ .ack) : ApartOp op where
  plain := ⟨fun row same => absurd same (inserts row), fun name row same => absurd same (adds name row),
    fun name statement same => absurd same (updates name statement),
    fun name query limit statement same => absurd same (claims name query limit statement),
    fun name query limit same => absurd same (locks name query limit), unpaid, unawaited, unanswered⟩
  not_insert := inserts

theorem apart_scope (ends : ScopeCalls op) : ApartOp op := by
  cases ends <;> exact plain_of_ne (by simp) (by simp) (by simp) (by simp) (by simp) (by simp) (by simp) (by simp)

theorem apart_get (calls : GetCalls op) : ApartOp op := by
  cases calls with
  | scope ends => exact apart_scope ends
  | _ => exact plain_of_ne (by simp) (by simp) (by simp) (by simp) (by simp) (by simp) (by simp) (by simp)

theorem apart_deliver (calls : DeliverCalls op) : ApartOp op := by
  cases calls with
  | scope ends => exact apart_scope ends
  | due now limit =>
      refine ⟨⟨by simp, by simp, by simp, by simp, ?_, by simp, by simp, by simp⟩, by simp⟩
      intro name query limit' same
      cases same
      rfl
  | progress delivery =>
      refine ⟨⟨by simp, by simp, ?_, by simp, by simp, by simp, by simp, by simp⟩, by simp⟩
      intro name statement same
      cases same
      exact .inl rfl
  | _ => exact plain_of_ne (by simp) (by simp) (by simp) (by simp) (by simp) (by simp) (by simp) (by simp)

theorem apart_outbox (calls : OutboxCalls op) : ApartOp op := by
  cases calls with
  | scope ends => exact apart_scope ends
  | update statement =>
      refine ⟨⟨by simp, by simp, ?_, by simp, by simp, by simp, by simp, by simp⟩, by simp⟩
      intro name statement' same
      cases same
      exact .inr rfl
  | claim query limit statement =>
      refine ⟨⟨by simp, by simp, by simp, ?_, by simp, by simp, by simp, by simp⟩, by simp⟩
      intro name query' limit' statement' same
      cases same
      rfl
  | _ => exact plain_of_ne (by simp) (by simp) (by simp) (by simp) (by simp) (by simp) (by simp) (by simp)

/-! ## The creation of a payment -/

theorem fresh_of_payment {command : CreatePaymentCommand} {values : IdempotencyKey × Money} {id : UUID}
    {now : Datetime} {row : PaymentModel}
    (stored : PaymentModel.of_payment (CreatePaymentHandler.new_payment command values id now) = some row) :
    Fresh row := by
  rcases Option.map_eq_some_iff.mp stored with ⟨amount, _, rfl⟩
  exact ⟨rfl, rfl, rfl⟩

theorem plain_creation {command : CreatePaymentCommand} (calls : CreationCalls command op) :
    PlainOp op ∧ op ≠ .close := by
  cases calls with
  | insert values id now valid =>
      refine ⟨⟨?_, by simp, by simp, by simp, by simp, by simp, by simp, by simp⟩, by simp⟩
      intro row same
      exact fresh_of_payment (Op.insert_on_conflict_do_nothing.inj same)
  | event values id event_id now event valid queued =>
      refine ⟨⟨by simp, ?_, by simp, by simp, by simp, by simp, by simp, by simp⟩, by simp⟩
      intro name row same
      cases same
      rfl
  | _ =>
      exact ⟨(plain_of_ne (by simp) (by simp) (by simp) (by simp) (by simp) (by simp) (by simp) (by simp)).plain,
        by simp⟩

/-- The run holds nothing at all. -/
def Clear (run : RunId) (world : World) : Prop :=
  forall name, Away name run world

theorem Clear.stable (clear : Clear run world) (untouched : World.Untouched run world after) : Clear run after :=
  fun name => (clear name).stable untouched

theorem Clear.apart (clear : Clear run world) : Apart run world where
  plain := ⟨clear _, fun key draft locked => absurd ⟨draft, locked⟩ (clear _ key),
    fun key draft locked => absurd ⟨draft, locked⟩ (clear _ key)⟩
  payments := clear _

theorem clear_rollback (run : RunId) (world : World) : Clear run (world.rollback run) :=
  fun _ _ => Cell.not_heldBy_rollback

theorem clear_release (run : RunId) (world : World) : Clear run (world.release run) :=
  fun _ _ => Cell.not_heldBy_rollback

theorem clear_commit (run : RunId) (world : World) : Clear run (world.commit run) :=
  fun _ _ => Cell.not_heldBy_commit

def clear (run : RunId) : (payment_discipline deployment).Assertion run :=
  knowing run (Clear run) (fun _ _ untouched _ known => known.stable untouched)

section

variable {pre post : (payment_discipline deployment).Assertion run}
  {error : Error -> (payment_discipline deployment).Assertion run}

/-- A rollback is permitted at any time and leaves the run with nothing. -/
theorem rollback_triple (rolled_back : forall world, PaymentsKept world -> pre world -> post (world.rollback run))
    (failed : forall raised world, external raised = true -> post world -> error raised world) :
    (payment_discipline deployment).Triple pre (await .rollback) (fun _ => post) error := by
  refine Discipline.Triple.perform (fun world _ _ => ?_) (fun state _ _ _ kept known ran _ _ => ?_)
    (fun state _ _ raised kept known ran _ _ => ?_)
  · exact (apart_scope .rollback).plain.permits (by simp) (by simp)
  · rw [World.exec_rollback_eq ran]
    exact rolled_back state kept known
  · have known_error := (service_executed ran).external
    rw [World.exec_rollback_eq ran]
    exact failed raised _ known_error (rolled_back state kept known)

/-- Closing the session is permitted when no payment is held. -/
theorem end_triple (closing : forall world, pre world -> Away .payments run world)
    (closed : forall world, PaymentsKept world -> pre world -> post (world.release run))
    (failed : forall raised world, external raised = true -> post world -> error raised world) :
    (payment_discipline deployment).Triple pre (await .close) (fun _ => post) error := by
  refine Discipline.Triple.perform (fun world _ known => ?_) (fun state _ _ _ kept known ran _ _ => ?_)
    (fun state _ _ raised kept known ran _ _ => ?_)
  · exact (apart_scope .close).plain.permits (by simp) (fun _ => closing world known)
  · rw [World.exec_close_eq ran]
    exact closed state kept known
  · have known_error := (service_executed ran).external
    rw [World.exec_close_eq ran]
    exact failed raised _ known_error (closed state kept known)

end

theorem create_triple (command : CreatePaymentCommand) :
    (payment_discipline deployment).Triple (clear run) (CreatePaymentHandler.handle command)
      (fun _ => clear run) (fun _ => clear run) := by
  have body : (payment_discipline deployment).Triple (clear run) (CreatePaymentHandler.body command)
      (fun _ => plain run) (fun _ => plain run) :=
    Discipline.Triple.strengthen
      (plain_triple ((creation_calls command).mono (fun _ => plain_creation)))
      (fun world _ known => (Clear.apart known).plain)
  have commit : forall value : PaymentDTO, (payment_discipline deployment).Triple (plain run) (await .commit)
      (fun _ => clear run) (fun _ => plain run) := by
    intro value
    refine Discipline.Triple.perform (fun world _ known => ?_) (fun state _ _ _ _ known ran _ _ => ?_)
      (fun state _ _ raised _ known ran _ _ => ?_)
    · exact (apart_scope .commit).plain.permits (fun _ => known) (by simp)
    · cases service_executed ran with
      | committed => exact clear_commit run state
    · exact Plain.executed known (apart_scope .commit).plain (service_executed ran)
  have rollback : (payment_discipline deployment).Triple (plain run) (await .rollback)
      (fun _ => clear run) (fun _ => clear run) :=
    rollback_triple (fun world _ _ => clear_rollback run world) (fun _ _ _ known => known)
  have close : (payment_discipline deployment).Triple (clear run) (await .close)
      (fun _ => clear run) (fun _ => clear run) :=
    end_triple (fun world known => known .payments) (fun world _ _ => clear_release run world)
      (fun _ _ _ known => known)
  exact transactional_triple body commit (fun _ => rollback) (fun _ => close) (fun _ => close)

end Properties
end Payments
