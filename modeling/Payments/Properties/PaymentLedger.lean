import Payments.Concurrency.Ledgers
import Payments.Properties.PaymentEnds
import Payments.Properties.PaymentOrigins
import Payments.Properties.PaymentReads

namespace Payments
namespace Properties

open Concurrency Domain Infrastructure Application Prog UnitOfWork Payments.System

/-!
# The ledger of payments

Seen from outside, the committed rows of three tables are one ledger: a payment
is an account that is opened with its order and settled with its status, its
time, its attempt and its delivery.  Every commit is one booking or none, and
no other step of the service books anything.
-/

variable {deployment : Deployment} {world after : World} {run : RunId} {key : UUID} {row : PaymentModel}

/-! ## The committed state as a ledger -/

/-- What the rows of an ended payment say. -/
structure Settlement where
  status : PaymentStatus
  processed_at : Option Datetime
  attempts : List PaymentAttempt
  /-- The identifiers of the deliveries, and their events. -/
  deliveries : List (UUID × String)

def delivery_of (key : UUID) (row : WebhookDeliveryModel) : Bool :=
  decide (row.payment_id = key)

def committed_deliveries (key : UUID) (world : World) : List (UUID × String) :=
  ((world.tables .webhook_deliveries).committedRows (delivery_of key)).map (fun row => (row.id, row.event_type))

def settlement (key : UUID) (row : PaymentModel) (world : World) : Option Settlement :=
  if row.status.terminal then
    some ⟨row.status, row.processed_at, committed_attempts key world, committed_deliveries key world⟩
  else none

def ledger (world : World) : AccountBook UUID PaymentModel Settlement := fun key =>
  (world.cell .payments key).committed.map (fun row => ⟨origin row, settlement key row world⟩)

theorem ledger_found (found : (world.cell .payments key).committed = some row) :
    ledger world key = some ⟨origin row, settlement key row world⟩ := by
  rw [ledger, found]
  rfl

theorem ledger_vacant (vacant : (world.cell .payments key).committed = none) : ledger world key = none := by
  rw [ledger, vacant]
  rfl

theorem of_ledger {account : Account PaymentModel Settlement} (known : ledger world key = some account) :
    Exists fun row => (world.cell .payments key).committed = some row ∧
      account = ⟨origin row, settlement key row world⟩ := by
  rcases Option.map_eq_some_iff.mp known with ⟨row, found, rfl⟩
  exact ⟨row, found, rfl⟩

theorem settlement_pending (pending : row.status.terminal = false) : settlement key row world = none :=
  if_neg (by rw [pending]; exact Bool.false_ne_true)

theorem settlement_ended (terminal : row.status.terminal = true) : settlement key row world =
    some ⟨row.status, row.processed_at, committed_attempts key world, committed_deliveries key world⟩ :=
  if_pos terminal

theorem Fresh.unsettled (fresh : Fresh row) : row.status.terminal = false := by
  rw [fresh.status]
  rfl

/-! ## What an ended payment shows -/

/-- The only selected row of a table is what a query of the committed rows finds. -/
theorem Sole.committed_rows {name : TableName} {selects : Row name -> Prop} {condition : Row name -> Bool}
    {only : Row name} (sole : Sole name selects only world) (same : forall row, condition row = true <-> selects row) :
    (world.tables name).committedRows condition = [only] := by
  rcases sole with ⟨id, found, selected, alone⟩
  have unique : forall other row, ((world.tables name).cell other).committed = some row -> condition row = true ->
      other = id :=
    fun other row committed matched => alone other row committed ((same row).mp matched)
  have committed : ((world.tables name).cell id).committed = some only := found
  rw [Table.committedRows_at unique, committed]
  exact if_pos ((same only).mpr selected)

theorem Sole.shows_attempts {attempt : PaymentAttemptModel}
    (sole : Sole .payment_attempts (fun row => row.payment_id = key) attempt world) :
    committed_attempts key world = [attempt.to_domain] := by
  have single : (world.tables .payment_attempts).committedRows (Query.attempts_by_payment_id key).condition = [attempt] :=
    sole.committed_rows (fun row => decide_eq_true_iff)
  rw [committed_attempts, single]
  rfl

theorem Sole.shows_deliveries {delivery : WebhookDeliveryModel}
    (sole : Sole .webhook_deliveries (fun row => row.payment_id = key) delivery world) :
    committed_deliveries key world = [(delivery.id, delivery.event_type)] := by
  have single : (world.tables .webhook_deliveries).committedRows (delivery_of key) = [delivery] :=
    sole.committed_rows (fun row => decide_eq_true_iff)
  rw [committed_deliveries, single]
  rfl

/-- A row keeps its identifier. -/
theorem Extends.keyed {name : TableName} {same : Row name -> Row name -> Prop} {fresh : UUID -> Row name -> Prop}
    (extended : Extends name same fresh world after) (before : World.Keyed world) (later : World.Keyed after) :
    Extends name (fun old new => same old new ∧ Row.id new = Row.id old) fresh world after where
  kept := by
    intro id old found
    rcases extended.kept id old found with ⟨new, found', related⟩
    have identified : Row.id new = Row.id old :=
      (later name id new (.committed found')).trans (before name id old (.committed found)).symm
    exact ⟨new, found', related, identified⟩
  added := by
    intro id new found
    rcases extended.added id new found with ⟨old, found', related⟩ | added
    · have identified : Row.id new = Row.id old :=
        (later name id new (.committed found)).trans (before name id old (.committed found')).symm
      exact .inl ⟨old, found', related, identified⟩
    · exact .inr added

/-- What is committed for other payments leaves the settlement of a payment alone. -/
theorem Shaped.settlement_kept {attempt : UUID -> PaymentAttemptModel -> Prop}
    {delivery : UUID -> WebhookDeliveryModel -> Prop} (shaped : Shaped key row world)
    (adds : Adds attempt delivery world after) (before : World.Keyed world) (later : World.Keyed after)
    (attempts : forall id new, attempt id new -> new.payment_id ≠ key)
    (deliveries : forall id new, delivery id new -> new.payment_id ≠ key) :
    settlement key row after = settlement key row world := by
  cases shaped with
  | pending fresh untried => rw [settlement_pending fresh.unsettled, settlement_pending fresh.unsettled]
  | ended final tried =>
      rcases tried.attempt with ⟨old, sole, _⟩
      rcases tried.delivery with ⟨old', sole', _⟩
      rcases sole.extended adds.attempts (attempts_compatible key) attempts with ⟨new, rfl, still⟩
      rcases sole'.extended (adds.deliveries.keyed before later)
        (fun old new same => deliveries_compatible key old new same.1) deliveries with ⟨new', ⟨same, identified⟩, still'⟩
      rw [settlement_ended final.terminal, settlement_ended final.terminal, still.shows_attempts, sole.shows_attempts,
        still'.shows_deliveries, sole'.shows_deliveries]
      exact congrArg (fun delivery => some (Settlement.mk _ _ _ [delivery])) (Prod.ext identified same.2)

/-- Where nothing is committed, nothing is posted. -/
theorem ledger_unmoved (kept : PaymentsKept world) (unmoved : Unmoved world after) : ledger after = ledger world := by
  funext key
  cases found : (world.cell .payments key).committed with
  | none => rw [ledger_vacant found, ledger_vacant ((unmoved _ key).trans found)]
  | some row =>
      have same : settlement key row after = settlement key row world := by
        cases kept.shaped key row found with
        | pending fresh untried => rw [settlement_pending fresh.unsettled, settlement_pending fresh.unsettled]
        | ended final tried =>
            rcases tried.attempt with ⟨attempt, sole, _⟩
            rcases tried.delivery with ⟨delivery, sole', _⟩
            rw [settlement_ended final.terminal, settlement_ended final.terminal, sole.shows_attempts,
              (sole.of_unmoved unmoved).shows_attempts, sole'.shows_deliveries, (sole'.of_unmoved unmoved).shows_deliveries]
      rw [ledger_found found, ledger_found ((unmoved _ key).trans found), same]

/-! ## What a commit books -/

/-- A step of the service commits nothing, or it is the commit of one run. -/
theorem unmoved_or_commits {state next : (service deployment).State} {action : (service deployment).Action}
    (reached : Machine.Reachable (fun _ _ => True) World.initial state) (taken : Machine.step state action = some next) :
    Unmoved state.shared next.shared ∨ Exists fun run => next.shared = state.shared.commit run ∧
      Installs run state.shared ∧ Creates run state.shared := by
  rcases Machine.step_cases taken with
    ⟨run, job, shared, absent, started, rfl⟩ | ⟨run, job, op, rest, choice, outcome, running, ran, rfl⟩ |
    ⟨run, job, op, rest, running, rfl⟩ | ⟨event, shared, happened, rfl⟩
  · refine .inl (fun name id => ?_)
    rcases start_cases started with rfl | ⟨_, _, _, _, rfl⟩ <;> rfl
  · have executed := service_executed ran
    by_cases commit : op = .commit
    · subst commit
      have permits := (payment_verified deployment).permitted reached running
      have creates := (creation_verified deployment).permitted (creation_reachable reached) running
      rcases outcome with ⟨shared, answer⟩
      cases executed with
      | raised => exact .inl (fun _ _ => rfl)
      | committed answer known accepting =>
          have accepted : ¬ state.shared.refusing run = true := by
            rw [accepting]
            exact Bool.false_ne_true
          exact .inr ⟨run, rfl, (permits.committing rfl).resolve_left accepted,
            (creates.committing rfl).resolve_left accepted⟩
    · exact .inl (fun name id => (executed.cell name id).committed_same commit)
  · refine .inl (fun name id => ?_)
    change ((World.crash run state.shared).cell name id).committed = _
    rw [World.crash_cell, Cell.rollback_committed]
  · exact .inl (fun name id => congrArg Cell.committed ((World.happen_occurred happened).cell name id))

/-- The accounts of committed payments that a commit does not end. -/
theorem ledger_kept (kept : PaymentsKept world) (keyed : World.Keyed after)
    {attempt : UUID -> PaymentAttemptModel -> Prop} {delivery : UUID -> WebhookDeliveryModel -> Prop}
    (adds : Adds attempt delivery world after) (attempts : forall id new, attempt id new -> new.payment_id ≠ key)
    (deliveries : forall id new, delivery id new -> new.payment_id ≠ key)
    (found : (world.cell .payments key).committed = some row) (later : (after.cell .payments key).committed = some row) :
    ledger after key = ledger world key := by
  rw [ledger_found found, ledger_found later,
    (kept.shaped key row found).settlement_kept adds kept.keyed keyed attempts deliveries]

/-- Later versions of rows post nothing. -/
theorem ledger_continuing (kept : PaymentsKept world) (keyed : World.Keyed (world.commit run))
    (adds : Adds (fun _ _ => False) (fun _ _ => False) world (world.commit run))
    (payments : Extends .payments (fun old new => new = old) (fun id new =>
      (world.cell .payments id).committed = none ∧ Fresh new) world (world.commit run))
    (continuing : Continuing run world) : ledger (world.commit run) = ledger world := by
  funext key
  cases found : (world.cell .payments key).committed with
  | some row =>
      rcases payments.kept key row found with ⟨later, found', rfl⟩
      exact ledger_kept kept keyed adds (fun _ _ => False.elim) (fun _ _ => False.elim) found found'
  | none =>
      rw [ledger_vacant found]
      refine ledger_vacant (Option.eq_none_iff_forall_ne_some.mpr (fun row found' => ?_))
      rcases committed_commit found' with before | locked
      · cases found.symm.trans before
      · rcases continuing.payments key row locked with ⟨old, before, _⟩
        cases found.symm.trans before

/-- A new payment opens an account. -/
theorem ledger_created (kept : PaymentsKept world) (keyed : World.Keyed (world.commit run))
    (adds : Adds (fun _ _ => False) (fun _ _ => False) world (world.commit run))
    (payments : Extends .payments (fun old new => new = old) (fun id new =>
      (world.cell .payments id).committed = none ∧ Fresh new) world (world.commit run)) {payment : PaymentModel}
    (writes : Holds .payments run key payment world) (vacant : (world.cell .payments key).committed = none) :
    Books PaymentModel.idempotency_key (ledger world) (.opened key (origin payment)) (ledger (world.commit run)) := by
  have locked := (writes key (some payment)).mpr ⟨rfl, rfl⟩
  have installed : ((world.commit run).cell .payments key).committed = some payment := by
    rw [World.cell_commit, Cell.commit_of_lock locked]
  have fresh : Fresh payment := by
    rcases payments.added key payment installed with ⟨old, found, _⟩ | ⟨_, fresh⟩
    · cases vacant.symm.trans found
    · exact fresh
  have unique : forall other account, ledger world other = some account ->
      account.order.idempotency_key ≠ (origin payment).idempotency_key := by
    intro other account known same
    rcases of_ledger known with ⟨row, found, rfl⟩
    cases kept.unique other key row payment (.committed found) (.draft locked) same
    cases vacant.symm.trans found
  have same : ledger (world.commit run) = Function.update (ledger world) key (some ⟨origin payment, none⟩) := by
    funext other
    by_cases here : other = key
    · subst here
      rw [Function.update_self, ledger_found installed, settlement_pending fresh.unsettled]
    · rw [Function.update_of_ne here]
      have unheld : ¬ (world.cell .payments other).HeldBy run :=
        fun ⟨draft, held⟩ => here ((writes other draft).mp held).1
      have committed : ((world.commit run).cell .payments other).committed = (world.cell .payments other).committed := by
        rw [World.cell_commit, Cell.commit_of_not_heldBy unheld]
      cases found : (world.cell .payments other).committed with
      | none => rw [ledger_vacant found, ledger_vacant (committed.trans found)]
      | some row =>
          exact ledger_kept kept keyed adds (fun _ _ => False.elim) (fun _ _ => False.elim) found (committed.trans found)
  rw [same]
  exact .opened key (origin payment) (ledger_vacant vacant) unique

/-- The end of a payment settles its account. -/
theorem ledger_settled (kept : PaymentsKept world) (keyed : World.Keyed (world.commit run)) {target : PaymentStatus}
    {time : Datetime} (terminal : target.terminal = true)
    (adds : Adds (fun _ new => new.payment_id = key) (fun _ new => new.payment_id = key) world (world.commit run))
    (found : (world.cell .payments key).committed = some row) (fresh : Fresh row)
    (installed : ((world.commit run).cell .payments key).committed = some (finished row target time))
    (others : forall id, id ≠ key -> ¬ (world.cell .payments id).HeldBy run) :
    Books PaymentModel.idempotency_key (ledger world)
      (.settled key ⟨target, some time, committed_attempts key (world.commit run),
        committed_deliveries key (world.commit run)⟩) (ledger (world.commit run)) := by
  have same : ledger (world.commit run) = Function.update (ledger world) key (some ⟨origin row, some ⟨target, some time,
      committed_attempts key (world.commit run), committed_deliveries key (world.commit run)⟩⟩) := by
    funext other
    by_cases here : other = key
    · subst here
      rw [Function.update_self, ledger_found installed, settlement_ended terminal, origin_finished]
      rfl
    · rw [Function.update_of_ne here]
      have committed : ((world.commit run).cell .payments other).committed = (world.cell .payments other).committed := by
        rw [World.cell_commit, Cell.commit_of_not_heldBy (others other here)]
      cases found' : (world.cell .payments other).committed with
      | none => rw [ledger_vacant found', ledger_vacant (committed.trans found')]
      | some row' =>
          exact ledger_kept kept keyed adds (fun _ _ same => same ▸ Ne.symm here) (fun _ _ same => same ▸ Ne.symm here)
            found' (committed.trans found')
  rw [same]
  refine .settled key (origin row) _ ?_
  rw [ledger_found found, settlement_pending fresh.unsettled]

/-- A commit is one booking or none. -/
theorem ledger_commit (kept : PaymentsKept world) (keyed : World.Keyed (world.commit run)) (installs : Installs run world)
    (creates : Creates run world) : ledger (world.commit run) = ledger world ∨
      Exists fun booking => Books PaymentModel.idempotency_key (ledger world) booking (ledger (world.commit run)) := by
  cases kept.commits installs with
  | plain adds payments unheld =>
      cases creates with
      | continuing continuing => exact .inl (ledger_continuing kept keyed adds payments continuing)
      | created key id payment message writes vacant messages announces =>
          exact .inr ⟨_, ledger_created kept keyed adds payments writes vacant⟩
  | settling key row target time terminal adds tried found fresh installed draft others =>
      exact .inr ⟨_, ledger_settled kept keyed terminal adds found fresh installed others⟩

/-! ## The refinement -/

/-- The service keeps the books of one ledger. -/
theorem service_refines (deployment : Deployment) :
    (bookkeeping PaymentModel.idempotency_key).Refines (service deployment) World.initial ledger where
  steps := by
    intro state next action reached taken
    have kept := (payment_verified deployment).invariant reached
    have later := (payment_verified deployment).invariant (reached.step action taken trivial)
    rcases unmoved_or_commits reached taken with unmoved | ⟨run, same, installs, creates⟩
    · exact .inl (ledger_unmoved kept unmoved)
    · rw [same] at later ⊢
      exact ledger_commit kept later.keyed installs creates

/-! ## The journal of the service -/

/-- What is behind a settlement: the answer that the gateway has given to one
run, the time that this run has read, and one attempt and one delivery that
say the same. -/
structure SettledAs (key : UUID) (settled : Settlement) (world : World) : Prop where
  ended : Exists fun run => Exists fun result => Exists fun time =>
    (.run run, .charge_returned key result) ∈ world.trace ∧ settled.status = verdict result ∧
      (.run run, .clock_read time) ∈ world.trace ∧ settled.processed_at = some time
  attempt : Exists fun attempt => settled.attempts = [attempt] ∧ attempt.attempt_number = 1 ∧
    attempt.status.value = settled.status.value
  delivery : Exists fun id => settled.deliveries = [(id, "payment." ++ settled.status.value)]

/-- The journal of a schedule: it has led to the committed state, it says of
each payment what this state says, no two payments have one key, and every
booking has its cause. -/
structure Journalled (actions : List (service deployment).Action) (state : (service deployment).State)
    (journal : List (Booking UUID PaymentModel Settlement)) : Prop where
  run : (bookkeeping PaymentModel.idempotency_key).Run AccountBook.empty journal (ledger state.shared)
  balances : Balances journal (ledger state.shared)
  keyed : AccountBook.Keyed PaymentModel.idempotency_key (ledger state.shared)
  opened : forall key order, .opened key order ∈ journal -> Exists fun run => Exists fun command =>
    CreatedBy actions state.shared.trace key run command ∧ Reflects command order
  settled : forall key settled, .settled key settled ∈ journal -> SettledAs key settled state.shared

theorem settled_as_of_final {state : (service deployment).State}
    (reached : Machine.Reachable (fun _ _ => True) World.initial state)
    (found : (state.shared.cell .payments key).committed = some row) (terminal : row.status.terminal = true) :
    SettledAs key ⟨row.status, row.processed_at, committed_attempts key state.shared,
      committed_deliveries key state.shared⟩ state.shared := by
  have kept := (payment_verified deployment).invariant reached
  cases kept.shaped key row found with
  | pending fresh untried => cases fresh.unsettled.symm.trans terminal
  | ended final tried =>
      rcases terminal_transition reached found final with ⟨time, run, record, earlier, transition⟩
      rcases transition.committed with ⟨recent, split⟩
      have before : earlier <:+ state.shared.trace := ⟨recent ++ [(.run run, .committed record)], by rw [split]; simp⟩
      rcases (kept.ends.at_split split run record key row rfl transition.installed final).2 with
        ⟨amount, text, result, _, answered, status⟩
      rcases tried.attempt with ⟨attempt, sole, number, named⟩
      rcases tried.delivery with ⟨delivery, sole', event⟩
      refine ⟨⟨run, result, time, before.subset answered, status, before.subset transition.ended.shown,
        transition.processed_at⟩, ⟨attempt.to_domain, sole.shows_attempts, number, named⟩, delivery.id, ?_⟩
      rw [← event]
      exact sole'.shows_deliveries

/-- The service refines the ledger: the committed rows of the payments, with
their attempts and deliveries, are at every moment the result of opening each
payment once, for a call that has asked for it, and of settling it once, as the
gateway has answered; and each step of the service books once or not at all. -/
theorem service_keeps_ledger {actions : List (service deployment).Action} {state : (service deployment).State}
    (executed : Machine.runFrom (Machine.fresh World.initial) actions = some state) :
    (Exists fun journal => Journalled actions state journal) ∧
      (forall later : (service deployment).State, Machine.Path (fun _ _ => True) state later ->
        Exists fun recent =>
          (bookkeeping PaymentModel.idempotency_key).Run (ledger state.shared) recent (ledger later.shared)) ∧
      forall (action : (service deployment).Action) next, Machine.step state action = some next ->
        ledger next.shared = ledger state.shared ∨ Exists fun booking =>
          (bookkeeping PaymentModel.idempotency_key).step (ledger state.shared) booking (ledger next.shared) := by
  have reached := Machine.Path.of_runFrom actions executed
  refine ⟨?_, fun later path => (service_refines deployment).run reached path,
    fun action next taken => (service_refines deployment).steps state next action reached taken⟩
  rcases (service_refines deployment).run .refl reached with ⟨journal, run⟩
  have balances : Balances journal (ledger state.shared) := bookkeeping_balances run
  refine ⟨journal, run, balances, bookkeeping_keyed run AccountBook.keyed_empty, fun key order listed => ?_,
    fun key settled listed => ?_⟩
  · rcases opened_of_bookings (balances.listed listed) with ⟨account, known, same⟩
    rcases of_ledger known with ⟨row, found, rfl⟩
    rcases created_by executed found with ⟨run, command, created, requested⟩
    have ordered : origin row = order := same
    exact ⟨run, command, created, requested.reflects.of_origin (ordered ▸ rfl)⟩
  · rcases settled_of_bookings (balances.listed listed) with ⟨account, known, outcome⟩
    rcases of_ledger known with ⟨row, found, rfl⟩
    have outcome : settlement key row state.shared = some settled := outcome
    by_cases terminal : row.status.terminal = true
    · rw [settlement_ended terminal] at outcome
      exact Option.some.inj outcome ▸ settled_as_of_final reached found terminal
    · rw [settlement_pending (Bool.not_eq_true _ ▸ terminal)] at outcome
      cases outcome

/-- The schedule that creates one payment and ends it books twice. -/
theorem one_payment_journalled : Exists fun state : (service sample_deployment).State => Exists fun journal =>
    Journalled (creating ++ charging 1 3 ++ settling 1 4) state journal ∧ (about 1 journal).length = 2 := by
  have posted : (Machine.runFrom (Machine.fresh World.initial) (creating ++ charging 1 3 ++ settling 1 4)).map
      (fun state => (bookings 1 (ledger state.shared 1)).length) = some 2 := by decide +kernel
  rcases Option.map_eq_some_iff.mp posted with ⟨state, ran, length⟩
  rcases (service_keeps_ledger ran).1 with ⟨journal, journalled⟩
  exact ⟨state, journal, journalled, by rw [journalled.balances 1, length]⟩

end Properties
end Payments
