import Payments.Properties.PaymentTables
import Payments.System.Transactions
import Payments.Properties.OutboxDiscipline

namespace Payments
namespace Properties

open Concurrency Domain Infrastructure Payments.System

/-!
# Commits of the payment tables

A commit is the only step that changes committed rows.  It either installs new
payments and progress of deliveries, or it ends one payment and adds its
attempt and its delivery.  In both cases every payment keeps one of the two
shapes, and this completes the discipline of the payment tables.
-/

variable {deployment : Deployment} {world after : World} {run : RunId} {op : Op} {key : UUID}

/-! ## Tables that grow -/

/-- Committed rows stay, up to a relation, and the new ones are described. -/
structure Extends (name : TableName) (same : Row name -> Row name -> Prop) (fresh : UUID -> Row name -> Prop)
    (world after : World) : Prop where
  kept : forall id old, (world.cell name id).committed = some old ->
    Exists fun new => (after.cell name id).committed = some new ∧ same old new
  added : forall id new, (after.cell name id).committed = some new ->
    (Exists fun old => (world.cell name id).committed = some old ∧ same old new) ∨ fresh id new

theorem extends_commit {name : TableName} {same : Row name -> Row name -> Prop} {fresh : UUID -> Row name -> Prop}
    (reflexive : forall row, same row row)
    (drafts : forall id draft, (world.cell name id).lock = some (run, draft) ->
      (Exists fun old => Exists fun new => (world.cell name id).committed = some old ∧ draft = some new ∧
        same old new) ∨
      (Exists fun new => (world.cell name id).committed = none ∧ draft = some new ∧ fresh id new)) :
    Extends name same fresh world (world.commit run) := by
  have unheld : forall id, ¬ (world.cell name id).HeldBy run ->
      ((world.commit run).cell name id).committed = (world.cell name id).committed := by
    intro id free
    rw [World.cell_commit, Cell.commit_of_not_heldBy free]
  have held : forall id draft, (world.cell name id).lock = some (run, draft) ->
      ((world.commit run).cell name id).committed = draft := by
    intro id draft locked
    rw [World.cell_commit, Cell.commit_of_lock locked]
  constructor
  · intro id old found
    by_cases mine : (world.cell name id).HeldBy run
    · rcases mine with ⟨draft, locked⟩
      rcases drafts id draft locked with ⟨old', new, found', rfl, related⟩ | ⟨new, vacant, _⟩
      · rw [found] at found'
        cases found'
        exact ⟨new, held id _ locked, related⟩
      · rw [found] at vacant
        cases vacant
    · exact ⟨old, (unheld id mine).trans found, reflexive old⟩
  · intro id new found
    by_cases mine : (world.cell name id).HeldBy run
    · rcases mine with ⟨draft, locked⟩
      rw [held id draft locked] at found
      rcases drafts id draft locked with ⟨old, new', found', rfl, related⟩ | ⟨new', vacant, rfl, added⟩
      · cases found
        exact .inl ⟨old, found', related⟩
      · cases found
        exact .inr added
    · rw [unheld id mine] at found
      exact .inl ⟨new, found, reflexive new⟩

section

variable {name : TableName} {same : Row name -> Row name -> Prop} {fresh : UUID -> Row name -> Prop}
  {selects : Row name -> Prop}

theorem Sole.extended {row : Row name} (sole : Sole name selects row world)
    (extended : Extends name same fresh world after)
    (compatible : forall old new, same old new -> (selects new <-> selects old))
    (unselected : forall id new, fresh id new -> ¬ selects new) :
    Exists fun new => same row new ∧ Sole name selects new after := by
  rcases sole with ⟨id, found, selected, only⟩
  rcases extended.kept id row found with ⟨new, found', related⟩
  refine ⟨new, related, id, found', (compatible row new related).mpr selected, ?_⟩
  intro other other_row other_found other_selected
  rcases extended.added other other_row other_found with ⟨old, before, related'⟩ | added
  · exact only other old before ((compatible old other_row related').mp other_selected)
  · exact absurd other_selected (unselected other other_row added)

/-- The first selected row of a table is the only one. -/
theorem sole_added {row : Row name} {id : UUID} (extended : Extends name same fresh world after)
    (compatible : forall old new, same old new -> (selects new <-> selects old))
    (unselected : forall id old, (world.cell name id).committed = some old -> ¬ selects old)
    (found : (after.cell name id).committed = some row) (selected : selects row)
    (single : forall other new, fresh other new -> other = id) : Sole name selects row after := by
  refine ⟨id, found, selected, fun other other_row other_found other_selected => ?_⟩
  rcases extended.added other other_row other_found with ⟨old, before, related⟩ | added
  · exact absurd ((compatible old other_row related).mp other_selected) (unselected other old before)
  · exact single other other_row added

end

/-- A delivery stays that of its payment and of its event. -/
def SameDelivery (old new : WebhookDeliveryModel) : Prop :=
  new.payment_id = old.payment_id ∧ new.event_type = old.event_type

/-- What a commit does to attempts and deliveries. -/
structure Adds (attempt : UUID -> PaymentAttemptModel -> Prop) (delivery : UUID -> WebhookDeliveryModel -> Prop)
    (world after : World) : Prop where
  attempts : Extends .payment_attempts (fun old new => new = old) attempt world after
  deliveries : Extends .webhook_deliveries SameDelivery delivery world after

theorem attempts_compatible (key : UUID) (old new : PaymentAttemptModel) (same : new = old) :
    new.payment_id = key <-> old.payment_id = key := by
  rw [same]

theorem deliveries_compatible (key : UUID) (old new : WebhookDeliveryModel) (same : SameDelivery old new) :
    new.payment_id = key <-> old.payment_id = key := by
  rw [same.1]

/-- What is added for other payments leaves the shape of a payment alone. -/
theorem Shaped.extended {attempt : UUID -> PaymentAttemptModel -> Prop}
    {delivery : UUID -> WebhookDeliveryModel -> Prop} {row : PaymentModel} (shaped : Shaped key row world)
    (adds : Adds attempt delivery world after)
    (attempts : forall id new, attempt id new -> new.payment_id ≠ key)
    (deliveries : forall id new, delivery id new -> new.payment_id ≠ key) : Shaped key row after := by
  cases shaped with
  | pending fresh untried =>
      refine .pending fresh ⟨fun id new found => ?_, fun id new found => ?_⟩
      · rcases adds.attempts.added id new found with ⟨old, before, rfl⟩ | added
        · exact untried.attempts id new before
        · exact attempts id new added
      · rcases adds.deliveries.added id new found with ⟨old, before, same⟩ | added
        · rw [same.1]
          exact untried.deliveries id old before
        · exact deliveries id new added
  | ended final tried =>
      rcases tried with ⟨⟨old, sole, number, status⟩, ⟨old', sole', event⟩⟩
      rcases sole.extended adds.attempts (attempts_compatible key) attempts with ⟨new, rfl, still⟩
      rcases sole'.extended adds.deliveries (deliveries_compatible key) deliveries with ⟨new', same, still'⟩
      exact .ended final ⟨⟨new, still, number, status⟩, ⟨new', still', same.2.trans event⟩⟩

/-! ## The two kinds of commits -/

/-- What a commit does to the payment tables. -/
inductive Commits (run : RunId) (world : World) : Prop where
  | plain
      (adds : Adds (fun _ _ => False) (fun _ _ => False) world (world.commit run))
      (payments : Extends .payments (fun old new => new = old) (fun id new =>
        (world.cell .payments id).committed = none ∧ Fresh new) world (world.commit run))
      (unheld : forall id row, (world.cell .payments id).committed = some row ->
        ¬ (world.cell .payments id).HeldBy run)
  | settling (key : UUID) (row : PaymentModel) (target : PaymentStatus) (time : Datetime)
      (terminal : target.terminal = true)
      (adds : Adds (fun _ new => new.payment_id = key) (fun _ new => new.payment_id = key) world
        (world.commit run))
      (tried : Tried key target (world.commit run))
      (found : (world.cell .payments key).committed = some row) (fresh : Fresh row)
      (installed : ((world.commit run).cell .payments key).committed = some (finished row target time))
      (draft : (world.cell .payments key).lock = some (run, some (finished row target time)))
      (others : forall id, id ≠ key -> ¬ (world.cell .payments id).HeldBy run)

theorem PaymentsKept.commits (kept : PaymentsKept world) (installs : Installs run world) : Commits run world := by
  cases installs with
  | plain attempts payments deliveries =>
      refine .plain ⟨?_, ?_⟩ ?_ ?_
      · exact extends_commit (fun _ => rfl) (fun id draft locked => absurd ⟨draft, locked⟩ (attempts id))
      · refine extends_commit (fun _ => ⟨rfl, rfl⟩) (fun id draft locked => .inl ?_)
        exact deliveries id draft locked
      · refine extends_commit (fun _ => rfl) (fun id draft locked => .inr ?_)
        have vacant := payments id draft locked
        rcases kept.drafted id run draft locked with ⟨new, rfl, drafts⟩
        rw [vacant] at drafts
        cases drafts with
        | created _ fresh => exact ⟨new, vacant, rfl, vacant, fresh⟩
        | begun _ found => cases found
        | ended _ _ _ found => cases found
      · rintro id row found ⟨draft, locked⟩
        rw [payments id draft locked] at found
        cases found
  | settling key row time attempt delivery amount idempotency_key result payments found fresh untried undelivered
      attempts attempted deliveries delivered called answered aggregated =>
      have pending : Untried key world := by
        cases kept.shaped key row found with
        | pending _ untried => exact untried
        | ended final => exact absurd final fresh.not_final
      have adds_attempts : Extends .payment_attempts (fun old new => new = old)
          (fun id new => id = attempt.id ∧ new = attempt) world (world.commit run) := by
        refine extends_commit (fun _ => rfl) (fun id draft locked => .inr ?_)
        rcases (attempts id draft).mp locked with ⟨rfl, rfl⟩
        exact ⟨attempt, untried, rfl, rfl, rfl⟩
      have adds_deliveries : Extends .webhook_deliveries SameDelivery
          (fun id new => id = delivery.id ∧ new = delivery) world (world.commit run) := by
        refine extends_commit (fun _ => ⟨rfl, rfl⟩) (fun id draft locked => .inr ?_)
        rcases (deliveries id draft).mp locked with ⟨rfl, rfl⟩
        exact ⟨delivery, undelivered, rfl, rfl, rfl⟩
      have attempt_found : ((world.commit run).cell .payment_attempts attempt.id).committed = some attempt := by
        rw [World.cell_commit, Cell.commit_of_lock ((attempts attempt.id (some attempt)).mpr ⟨rfl, rfl⟩)]
      have delivery_found : ((world.commit run).cell .webhook_deliveries delivery.id).committed =
          some delivery := by
        rw [World.cell_commit, Cell.commit_of_lock ((deliveries delivery.id (some delivery)).mpr ⟨rfl, rfl⟩)]
      have locked := (payments key _).mpr ⟨rfl, rfl⟩
      refine .settling key row (verdict result) time (verdict_terminal result) ⟨?_, ?_⟩ ⟨?_, ?_⟩ found fresh ?_
        locked ?_
      · refine ⟨adds_attempts.kept, fun id new found => ?_⟩
        rcases adds_attempts.added id new found with before | ⟨_, rfl⟩
        · exact .inl before
        · exact .inr attempted.1
      · refine ⟨adds_deliveries.kept, fun id new found => ?_⟩
        rcases adds_deliveries.added id new found with before | ⟨_, rfl⟩
        · exact .inl before
        · exact .inr delivered.1
      · exact ⟨attempt, sole_added adds_attempts (attempts_compatible key) pending.attempts attempt_found
          attempted.1 (fun _ _ added => added.1), attempted.2⟩
      · exact ⟨delivery, sole_added adds_deliveries (deliveries_compatible key) pending.deliveries delivery_found
          delivered.1 (fun _ _ added => added.1), delivered.2⟩
      · rw [World.cell_commit, Cell.commit_of_lock locked]
      · rintro id different ⟨draft, held⟩
        exact different ((payments id draft).mp held).1

/-- A committed payment is still there, and where it has ended the record shows it. -/
theorem Commits.grows (commits : Commits run world) {row : PaymentModel}
    (found : (world.cell .payments key).committed = some row) :
    Exists fun later => ((world.commit run).cell .payments key).committed = some later ∧ Grows row later := by
  cases commits with
  | plain adds payments unheld =>
      rcases payments.kept key row found with ⟨later, found', same⟩
      exact ⟨later, found', .same same⟩
  | settling target old status time terminal adds tried before fresh installed draft others =>
      by_cases here : key = target
      · subst here
        rw [found] at before
        cases before
        exact ⟨_, installed, .ended fresh (final_finished terminal time) (origin_finished status time)⟩
      · refine ⟨row, ?_, .same rfl⟩
        rw [World.cell_commit, Cell.commit_of_not_heldBy (others key here), found]

theorem Commits.shaped (commits : Commits run world) (kept : PaymentsKept world) {row : PaymentModel}
    (found : ((world.commit run).cell .payments key).committed = some row) : Shaped key row (world.commit run) := by
  cases commits with
  | plain adds payments unheld =>
      rcases payments.added key row found with ⟨old, before, rfl⟩ | ⟨vacant, fresh⟩
      · exact (kept.shaped key row before).extended adds (fun _ _ => False.elim) (fun _ _ => False.elim)
      · have untried : Untried key world := by
          refine ⟨fun id attempt before same => ?_, fun id delivery before same => ?_⟩
          · rcases kept.attempted id attempt before with ⟨owner, owned⟩
            rw [same, vacant] at owned
            cases owned
          · rcases kept.delivered id delivery before with ⟨owner, owned⟩
            rw [same, vacant] at owned
            cases owned
        exact (Shaped.pending fresh untried).extended adds (fun _ _ => False.elim) (fun _ _ => False.elim)
  | settling target old status time terminal adds tried before fresh installed draft others =>
      by_cases here : key = target
      · subst here
        rw [installed] at found
        cases found
        exact .ended (final_finished terminal time) tried
      · rw [World.cell_commit, Cell.commit_of_not_heldBy (others key here)] at found
        exact (kept.shaped key row found).extended adds (fun _ _ same => same ▸ Ne.symm here)
          (fun _ _ same => same ▸ Ne.symm here)

theorem Commits.adds (commits : Commits run world) :
    Exists fun owner : Option UUID =>
      Adds (fun _ new => some new.payment_id = owner) (fun _ new => some new.payment_id = owner) world
        (world.commit run) ∧
      forall key, owner = some key ->
        Exists fun row => ((world.commit run).cell .payments key).committed = some row := by
  cases commits with
  | plain adds payments unheld =>
      refine ⟨none, ⟨⟨adds.attempts.kept, fun id new found => ?_⟩, ⟨adds.deliveries.kept, fun id new found => ?_⟩⟩,
        fun key impossible => by cases impossible⟩
      · exact (adds.attempts.added id new found).imp (fun before => before) False.elim
      · exact (adds.deliveries.added id new found).imp (fun before => before) False.elim
  | settling target old status time terminal adds tried before fresh installed draft others =>
      refine ⟨some target, ⟨⟨adds.attempts.kept, fun id new found => ?_⟩,
        ⟨adds.deliveries.kept, fun id new found => ?_⟩⟩, fun key same => ?_⟩
      · exact (adds.attempts.added id new found).imp (fun before => before) (congrArg some)
      · exact (adds.deliveries.added id new found).imp (fun before => before) (congrArg some)
      · cases same
        exact ⟨_, installed⟩

/-- What a transaction may install ends a payment only as the gateway has answered. -/
theorem PaymentsKept.end_allowed (kept : PaymentsKept world) (installs : Installs run world) :
    EndAllowed (.run run, .committed (world.record run)) world.trace := by
  intro other record key row same listed final
  cases same
  have locked := World.mem_record.mp listed
  cases installs with
  | plain attempts payments deliveries =>
      rcases kept.drafted key _ _ locked with ⟨draft, same, drafts⟩
      cases same
      have vacant := payments key _ locked
      cases drafts with
      | created vacant fresh => exact absurd final fresh.not_final
      | begun old found =>
          rw [vacant] at found
          cases found
      | ended old target time found =>
          rw [vacant] at found
          cases found
  | settling key' row' time attempt delivery amount text result payments found fresh untried undelivered attempts
      attempted deliveries delivered called answered aggregated =>
      rcases (payments key _).mp locked with ⟨rfl, same⟩
      cases same
      refine ⟨fun other record' later recorded listed' final' => ?_, amount, text, result, own_mem.mp called,
        own_mem.mp answered, rfl⟩
      rcases kept.installed other record' key later recorded listed' with ⟨last, found', grows⟩
      rw [found] at found'
      cases found'
      rw [grows.of_final final'] at fresh
      exact fresh.not_final final'

theorem PaymentsKept.commit (kept : PaymentsKept world) (installs : Installs run world) :
    PaymentsKept (world.commit run) := by
  have commits := kept.commits installs
  have keyed : World.Keyed (world.commit run) := by
    intro name key row carried
    exact kept.keyed name key row (Cell.carries_of_commit carried)
  rcases commits.adds with ⟨owner, adds, owned⟩
  refine ⟨keyed, fun key row found => commits.shaped kept found, ?_, ?_, ?_, ?_, ?_, ?_, ?_, ?_, ?_, ?_⟩
  · intro id attempt found
    rcases adds.attempts.added id attempt found with ⟨old, before, rfl⟩ | added
    · rcases kept.attempted id attempt before with ⟨row, present⟩
      rcases commits.grows present with ⟨later, present', _⟩
      exact ⟨later, present'⟩
    · exact owned attempt.payment_id added.symm
  · intro id delivery found
    rcases adds.deliveries.added id delivery found with ⟨old, before, same⟩ | added
    · rcases kept.delivered id old before with ⟨row, present⟩
      rcases commits.grows present with ⟨later, present', _⟩
      exact ⟨later, same.1 ▸ present'⟩
    · exact owned delivery.payment_id added.symm
  · intro key other row found first second same
    exact kept.unique key other row found (Cell.carries_of_commit first) (Cell.carries_of_commit second) same
  · intro key holder draft locked
    rw [World.cell_commit] at locked
    rcases Cell.lock_of_commit locked with ⟨before, free⟩
    rw [World.cell_commit, Cell.commit_of_not_heldBy free]
    exact kept.drafted key holder draft before
  · intro other record key row recorded listed
    rcases List.mem_cons.mp recorded with same | before
    · cases same
      have locked := World.mem_record.mp listed
      exact ⟨row, by rw [World.cell_commit, Cell.commit_of_lock locked], .same rfl⟩
    · rcases kept.installed other record key row before listed with ⟨later, present, grows⟩
      rcases commits.grows present with ⟨last, present', grows'⟩
      exact ⟨last, present', grows.trans grows'⟩
  · intro later earlier other key amount idempotency_key split
    rcases split_cons split with ⟨_, same, _⟩ | ⟨rest, rfl, before⟩
    · cases same
    · cases kept.charged rest earlier other key amount idempotency_key before with
      | undone rolled_back => exact .undone (List.mem_cons_of_mem _ rolled_back)
      | ended record row recorded installed final =>
          exact .ended record row (List.mem_cons_of_mem _ recorded) installed final
      | holding held row found =>
          by_cases mine : other = run
          · subst mine
            cases commits with
            | plain _ _ unheld => exact absurd held (unheld key row found)
            | settling target old status time terminal adds tried before fresh installed draft others =>
                by_cases here : key = target
                · subst here
                  exact .ended _ _ List.mem_cons_self (World.mem_record.mpr draft) (final_finished terminal time)
                · exact absurd held (others key here)
          · have free : ¬ (world.cell .payments key).HeldBy run := fun mine' => mine (held.unique mine')
            have same : ((world.commit run).cell .payments key) = world.cell .payments key := by
              rw [World.cell_commit, Cell.commit_of_not_heldBy free]
            exact .holding (same ▸ held) row (same ▸ found)
  · exact kept.history.cons (fun _ _ _ _ same => by cases same)
  · exact kept.ends.cons (kept.end_allowed installs)
  · intro key row found
    by_cases mine : (world.cell .payments key).HeldBy run
    · rcases mine with ⟨draft, locked⟩
      rw [World.cell_commit, Cell.commit_of_lock locked] at found
      cases found
      exact ⟨run, world.record run, List.mem_cons_self, World.mem_record.mpr locked⟩
    · rw [World.cell_commit, Cell.commit_of_not_heldBy mine] at found
      rcases kept.recorded key row found with ⟨other, record, recorded, listed⟩
      exact ⟨other, record, List.mem_cons_of_mem _ recorded, listed⟩
  · intro other key amount idempotency_key listed
    rcases List.mem_cons.mp listed with same | before
    · cases same
    · rcases kept.ordered other key amount idempotency_key before with ⟨row, present, orders⟩
      rcases commits.grows present with ⟨later, present', grows⟩
      exact ⟨later, present', orders.of_origin grows.origin⟩

/-! ## Every permitted step keeps the tables -/

theorem PaymentsKept.executed (kept : PaymentsKept world) {answer : Except Error op.Answer}
    (permits : PaymentPermits run op world) (executed : World.Executed run world op after answer) :
    PaymentsKept after := by
  by_cases commit : op = .commit
  · subst commit
    cases executed with
    | raised => exact kept
    | committed answer known accepting =>
        rcases permits.committing rfl with refusing | installs
        · rw [accepting] at refusing
          cases refusing
        · exact kept.commit installs
  · by_cases charge : Exists fun id => Exists fun amount => Exists fun text => op = .charge_call id amount text
    · rcases charge with ⟨id, amount, text, rfl⟩
      cases executed with
      | raised => exact kept
      | charge_called => exact kept.charge permits
    · rcases moves_executed permits executed commit
        (fun id amount text same => charge ⟨id, amount, text, same⟩) with ⟨new, moves⟩
      refine kept.moved moves (kept.keyed.executed executed) ?_ ?_
      · intro key other row found first second same
        exact kept.unique_executed permits executed first second same
      · intro key holder draft locked
        exact kept.drafted_executed permits executed commit locked

/-- A step that changes no lock but to release it, and records nothing that counts. -/
theorem PaymentsKept.released (kept : PaymentsKept world) (new : List Entry) (moves : Moves world after new)
    (keyed : World.Keyed after)
    (locks : forall key holder draft, (after.cell .payments key).lock = some (holder, draft) ->
      (world.cell .payments key).lock = some (holder, draft)) : PaymentsKept after := by
  have carried : forall key row, (after.cell .payments key).Carries row ->
      (world.cell .payments key).Carries row := by
    intro key row carried
    cases carried with
    | committed same => exact .committed ((moves.unmoved _ key).symm.trans same)
    | draft same => exact .draft (locks key _ _ same)
  refine kept.moved moves keyed ?_ ?_
  · intro key other row found first second same
    exact kept.unique key other row found (carried key row first) (carried other found second) same
  · intro key holder draft locked
    rw [moves.unmoved]
    exact kept.drafted key holder draft (locks key holder draft locked)

theorem PaymentsKept.crash (kept : PaymentsKept world) : PaymentsKept (world.crash run) := by
  refine kept.released [(.run run, .rolled_back)] ⟨?_, World.crash_trace, ?_, ?_, ?_⟩
    kept.keyed.crash ?_
  · intro name key
    rw [World.crash_cell, Cell.rollback_committed]
  · intro other record listed
    cases List.mem_singleton.mp listed
  · intro other key amount text listed
    cases List.mem_singleton.mp listed
  · intro holder key held
    by_cases mine : holder = run
    · exact .inr (by rw [mine]; exact List.mem_singleton_self _)
    · refine .inl ?_
      rw [World.crash_cell, Cell.rollback_of_not_heldBy (fun held' => mine (held.unique held'))]
      exact held
  · intro key holder draft locked
    rw [World.crash_cell] at locked
    exact (Cell.lock_of_rollback locked).1

theorem PaymentsKept.of_tables (kept : PaymentsKept world) (tables : after.tables = world.tables)
    (new : List Entry) (trace : after.trace = new ++ world.trace)
    (uncommitted : forall run record, (.run run, .committed record) ∉ new)
    (uncharged : forall run key amount text, (.run run, .charge_called key amount text) ∉ new) :
    PaymentsKept after := by
  have cells : forall name key, after.cell name key = world.cell name key := by
    intro name key
    rw [World.cell, World.cell, tables]
  refine kept.released new ⟨fun name key => by rw [cells], trace, uncommitted, uncharged, fun holder key held => ?_⟩
    (kept.keyed.of_tables tables) (fun key holder draft locked => ?_)
  · exact .inl (by rw [cells]; exact held)
  · rw [cells] at locked
    exact locked

theorem PaymentsKept.occurred (kept : PaymentsKept world) (occurred : World.Occurred world after) :
    PaymentsKept after := by
  rcases occurred.trace with same | ⟨event, observed, same⟩
  · exact kept.of_tables occurred.tables [] same (by simp) (by simp)
  · refine kept.of_tables occurred.tables [(.environment, event)] same ?_ ?_
    · intro run record listed
      cases List.mem_singleton.mp listed
    · intro run key amount text listed
      cases List.mem_singleton.mp listed

theorem PaymentsKept.delivered_to (kept : PaymentsKept world) (message : Message) :
    PaymentsKept (deliver run message world) := by
  refine kept.of_tables rfl [(.run run, .delivered message)] rfl ?_ ?_
  · intro other record listed
    cases List.mem_singleton.mp listed
  · intro other key amount text listed
    cases List.mem_singleton.mp listed

theorem payments_kept_initially : PaymentsKept World.initial where
  keyed := World.keyed_initially
  shaped := fun _ _ found => by cases found
  attempted := fun _ _ found => by cases found
  delivered := fun _ _ found => by cases found
  unique := by
    intro key other row found carried
    cases carried with
    | committed same => cases same
    | draft same => cases same
  drafted := fun _ _ _ locked => by cases locked
  installed := fun _ _ _ _ recorded => by cases recorded
  charged := by
    intro later earlier run key amount text split
    cases later <;> cases split
  history := .nil
  ends := .nil
  recorded := fun _ _ found => by cases found
  ordered := fun _ _ _ _ listed => by cases listed

/-! ## How payments evolve -/

structure PaymentsEvolve (before after : World) : Prop where
  trace : before.trace <:+ after.trace
  grows : forall key row, (before.cell .payments key).committed = some row ->
    Exists fun later => (after.cell .payments key).committed = some later ∧ Grows row later

theorem PaymentsEvolve.refl (world : World) : PaymentsEvolve world world :=
  ⟨List.suffix_refl _, fun _ row found => ⟨row, found, .same rfl⟩⟩

theorem PaymentsEvolve.trans {first second third : World} (before : PaymentsEvolve first second)
    (after : PaymentsEvolve second third) : PaymentsEvolve first third := by
  refine ⟨before.trace.trans after.trace, fun key row found => ?_⟩
  rcases before.grows key row found with ⟨middle, found', grows⟩
  rcases after.grows key middle found' with ⟨last, found'', grows'⟩
  exact ⟨last, found'', grows.trans grows'⟩

theorem PaymentsEvolve.of_unmoved (trace : world.trace <:+ after.trace)
    (unmoved : forall key, (after.cell .payments key).committed = (world.cell .payments key).committed) :
    PaymentsEvolve world after :=
  ⟨trace, fun key row found => ⟨row, (unmoved key).trans found, .same rfl⟩⟩

theorem payments_evolve_executed (kept : PaymentsKept world) {answer : Except Error op.Answer}
    (permits : PaymentPermits run op world) (executed : World.Executed run world op after answer) :
    PaymentsEvolve world after := by
  by_cases commit : op = .commit
  · subst commit
    cases executed with
    | raised => exact .refl world
    | committed answer known accepting =>
        rcases permits.committing rfl with refusing | installs
        · rw [accepting] at refusing
          cases refusing
        · exact ⟨List.suffix_cons _ _, fun key row found => (kept.commits installs).grows found⟩
  · exact .of_unmoved (World.trace_executed executed) (fun key => (executed.cell .payments key).committed_same commit)

/-! ## The discipline -/

def payment_discipline (deployment : Deployment) : Discipline (service deployment) where
  inv := PaymentsKept
  evolves := PaymentsEvolve
  frame := World.Untouched
  permits := PaymentPermits
  allowed := fun _ _ => True
  evolves_refl := PaymentsEvolve.refl
  evolves_trans := PaymentsEvolve.trans
  frame_refl := World.Untouched.refl
  frame_trans := World.Untouched.trans

theorem payment_upheld (deployment : Deployment) :
    (payment_discipline deployment).Upheld World.initial where
  initially := payments_kept_initially
  starts := by
    intro run job world after kept started _
    rcases start_cases started with rfl | ⟨settings, message, _, _, rfl⟩
    · exact ⟨kept, .refl after, fun other _ => .refl other after⟩
    · exact ⟨kept.delivered_to message, .of_unmoved (List.suffix_cons _ _) (fun _ => rfl),
        fun other different => untouched_deliver different⟩
  operations := by
    intro run op choice world after answer kept permits ran _
    have executed := World.exec_executed ran
    exact ⟨kept.executed permits executed, payments_evolve_executed kept permits executed,
      fun other different => executed.untouched different⟩
  crashes := by
    intro run world kept _
    refine ⟨kept.crash, .of_unmoved World.trace_crash (fun key => ?_), fun other different =>
      World.crash_untouched different⟩
    rw [World.crash_cell, Cell.rollback_committed]
  environment := by
    intro event world after kept happened _
    have occurred := World.happen_occurred happened
    refine ⟨kept.occurred occurred, .of_unmoved (World.trace_occurred occurred)
      (fun key => by rw [occurred.cell]), fun run => occurred.untouched run⟩

end Properties
end Payments
