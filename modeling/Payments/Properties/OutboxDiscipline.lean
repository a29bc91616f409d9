import Payments.Properties.OutboxLeases
import Payments.System.Transactions

namespace Payments
namespace Properties

open Concurrency Domain Infrastructure Application Prog UnitOfWork Payments.System

/-!
# The discipline of outbox leases

The books of the outbox are kept by every permitted operation.  This module
puts this into the form of a discipline, says what a run may know between its
operations, and shows that the programs which have nothing to do with leases
ask for permitted operations only.
-/

variable {deployment : Deployment} {world after : World} {run : RunId} {op : Op}

def outbox_discipline (deployment : Deployment) : Discipline (service deployment) where
  inv := LeasesKept deployment
  evolves := LeasesEvolve
  frame := LeaseFrame
  permits := LeasePermits deployment
  allowed := fun _ _ => True
  evolves_refl := LeasesEvolve.refl
  evolves_trans := LeasesEvolve.trans
  frame_refl := LeaseFrame.refl
  frame_trans := LeaseFrame.trans

/-! ## Operations keep the discipline -/

theorem outbox_starts (kept : LeasesKept deployment world) {job : Job}
    (started : start deployment job run world = some after) :
    (outbox_discipline deployment).Guarantee run world after := by
  rcases start_cases started with rfl | ⟨settings, message, _, _, rfl⟩
  · exact ⟨kept, LeasesEvolve.refl after, fun other _ => LeaseFrame.refl other after⟩
  · have quiet : Quiet (.delivered message) := ⟨fun _ same => (by cases same), rfl, rfl⟩
    refine ⟨kept.delivered message _, ⟨List.suffix_cons _ _, ?_⟩, fun other different => ?_⟩
    · exact fun key row committed => removed_of_same committed rfl
    · refine ⟨untouched_deliver different, fun _ _ owns => ⟨owns.seen, owns.status, owns.claimed_by⟩,
        fun claim _ => ?_⟩
      exact congrArg (· + tasks_in claim .waiting world) ((quiet.same_counts (.run run) world.trace).calls claim)

theorem outbox_upheld (deployment : Deployment) :
    (outbox_discipline deployment).Upheld World.initial where
  initially := leases_kept_initially
  starts := by
    intro run job world after kept started _
    exact outbox_starts kept started
  operations := by
    intro run op choice world after answer kept permits ran _
    have executed := World.exec_executed ran
    exact ⟨kept.executed permits executed, leases_evolve_executed kept executed,
      fun other different => lease_frame_executed kept executed different⟩
  crashes := by
    intro run world kept _
    exact ⟨kept.crash, leases_evolve_crash, fun other different => lease_frame_crash different⟩
  environment := by
    intro event world after kept happened _
    have occurred := World.happen_occurred happened
    exact ⟨kept.occurred occurred, leases_evolve_occurred occurred,
      fun run => lease_frame_occurred occurred run⟩

/-! ## What a run knows -/

/-- The transaction of the run holds no outbox row. -/
def Free (run : RunId) (world : World) : Prop :=
  forall key, ¬ (world.cell .outbox_messages key).HeldBy run

theorem Free.unleased (free : Free run world) : Unleased run world :=
  fun key draft locked _ => free key ⟨some draft, locked⟩

theorem Free.unmarking (free : Free run world) : Unmarking run world :=
  fun key draft _ locked _ _ => free key ⟨draft, locked⟩

/-- No publish of the run is under way. -/
def Idle (run : RunId) (world : World) : Prop :=
  (world.publishing run).tasks = []

/-- The run is not between a claim and its marks. -/
def Unclaimed (run : RunId) (world : World) : Prop :=
  forall key row, ¬ Current run key row world

theorem Current.of_own {key : UUID} {row : OutboxMessageModel} (same : after.own run = world.own run)
    (current : Current run key row after) : Current run key row world :=
  { current with recorded := same ▸ current.recorded }

/-- Only a commit makes a claim current. -/
theorem Current.of_note {key : UUID} {row : OutboxMessageModel} {event : Event}
    (noted : after.own run = event :: world.own run) (uncommitted : forall record, event ≠ .committed record)
    (current : Current run key row after) : Current run key row world := by
  rcases current.recorded with ⟨recent, record, earlier, own, quiet, found⟩
  rw [noted] at own
  cases recent with
  | nil => exact absurd (List.cons.inj own).1 (uncommitted record)
  | cons head tail =>
      refine { current with recorded := ⟨tail, record, earlier, (List.cons.inj own).2, ?_, found⟩ }
      exact fun event listed => quiet event (List.mem_cons_of_mem _ listed)

theorem Current.note {key : UUID} {row : OutboxMessageModel} {event : Event}
    (noted : after.own run = event :: world.own run) (quiet : continues event = true)
    (current : Current run key row world) : Current run key row after := by
  rcases current.recorded with ⟨recent, record, earlier, own, continued, found⟩
  refine { current with recorded := ⟨event :: recent, record, earlier, ?_, ?_, found⟩ }
  · rw [noted, own]
    rfl
  · intro other listed
    rcases List.mem_cons.mp listed with rfl | listed
    · exact quiet
    · exact continued other listed

/-- After a reading of the clock no claim is current. -/
theorem unclaimed_of_clock_read {reading : Datetime}
    (noted : after.own run = .clock_read reading :: world.own run) : Unclaimed run after := by
  intro key row current
  rcases current.recorded with ⟨recent, record, earlier, own, quiet, _⟩
  rw [noted] at own
  cases recent with
  | nil => cases (List.cons.inj own).1
  | cons head tail =>
      have started := quiet head List.mem_cons_self
      rw [← (List.cons.inj own).1] at started
      cases started

/-- After a commit the claims of its transaction are current. -/
theorem current_commit_iff {key : UUID} {row : OutboxMessageModel} :
    Current run key row (world.commit run) <->
      (world.cell .outbox_messages key).lock = some (run, some row) ∧ row.id = key ∧
        row.status = .PROCESSING ∧ row.claimed_by = some run := by
  have own : (world.commit run).own run = .committed (world.record run) :: world.own run :=
    World.own_note_self (.committed (world.record run))
  constructor
  · intro current
    rcases current.recorded with ⟨recent, record, earlier, same, quiet, found⟩
    rw [own] at same
    cases recent with
    | nil =>
        cases (List.cons.inj same).1
        exact ⟨World.mem_record.mp found, current.id, current.status, current.claimed_by⟩
    | cons head tail =>
        have started := quiet head List.mem_cons_self
        rw [← (List.cons.inj same).1] at started
        cases started
  · rintro ⟨locked, id, status, claimed_by⟩
    refine ⟨⟨[], world.record run, world.own run, own, ?_, World.mem_record.mpr locked⟩, id, status, claimed_by⟩
    intro event listed
    cases listed

/-! ## Runs that have nothing to do with leases -/

/-- Operations that neither lock, update, claim nor publish outbox messages. -/
structure NoLease (op : Op) : Prop where
  proper : Proper op
  update : forall statement, op ≠ .update .outbox_messages statement
  claim : forall query limit statement, op ≠ .update_claimable .outbox_messages query limit statement
  lock : forall query limit, op ≠ .select_for_update .outbox_messages query limit
  publish : forall messages concurrency, op ≠ .publish_all messages concurrency

structure Bystander (run : RunId) (world : World) : Prop where
  unleased : Unleased run world
  unmarking : Unmarking run world
  idle : Idle run world
  unclaimed : Unclaimed run world

theorem NoLease.permitted (neutral : NoLease op) (reading : op = .now -> Unmarking run world)
    (committing : op = .commit -> Idle run world ∧ forall key row, Current run key row world ->
      (.environment, .publish_confirmed run row.to_domain) ∈ world.trace -> ¬ Owns run key row world) :
    LeasePermits deployment run op world where
  proper := neutral.proper
  unlocked := neutral.lock
  reading := reading
  unleased := fun statement same => absurd same (neutral.update statement)
  limited := fun statement _ same => absurd same (neutral.update statement)
  releasing := fun _ _ same => same.elim (absurd · (neutral.update _)) (absurd · (neutral.update _))
  marking := fun _ _ same => absurd same (neutral.update _)
  failing := fun _ _ _ _ same => absurd same (neutral.update _)
  claiming := fun query limit _ _ same => absurd same (neutral.claim query limit _)
  publishing := fun messages concurrency same => absurd same (neutral.publish messages concurrency)
  committing := committing

theorem NoLease.permits (neutral : NoLease op) (bystander : Bystander run world) :
    LeasePermits deployment run op world :=
  neutral.permitted (fun _ => bystander.unmarking) (fun _ =>
    ⟨bystander.idle, fun key row current => absurd current (bystander.unclaimed key row)⟩)

theorem NoLease.permits_of_ne (neutral : NoLease op) (not_now : op ≠ .now) (not_commit : op ≠ .commit) :
    LeasePermits deployment run op world :=
  neutral.permitted (fun same => absurd same not_now) (fun same => absurd same not_commit)

/-- An operation that claims nothing leaves no claimed draft behind. -/
theorem unleased_executed {answer : Except Error op.Answer} (unleased : Unleased run world)
    (proper : Proper op) (lock : forall query limit, op ≠ .select_for_update .outbox_messages query limit)
    (claim : forall query limit statement, op ≠ .update_claimable .outbox_messages query limit statement)
    (executed : World.Executed run world op after answer) : Unleased run after := by
  intro key draft locked
  cases executed.cell .outbox_messages key with
  | kept unchanged => exact unleased key draft (unchanged ▸ locked)
  | locked query limit seen operation => exact absurd operation (lock query limit)
  | updated statement time seen operation visible selected free changed =>
      have not_claim : forall now worker_id, statement ≠ .claim now worker_id := by
        rintro now worker_id rfl
        exact proper.updated now worker_id operation
      rw [changed] at locked
      cases locked
      exact status_updated not_claim time
  | claimed query limit statement time seen operation => exact absurd operation (claim query limit statement)
  | deleted cutoff seen operation table visible selected free changed =>
      rw [changed] at locked
      cases locked
  | added found operation own vacant changed =>
      rcases proper.added found operation with ⟨id, event, same⟩
      rw [changed] at locked
      cases locked
      rw [same]
      exact fun impossible => by cases impossible
  | inserted found operation table => cases table
  | committed operation changed =>
      rw [changed] at locked
      exact unleased key draft (Cell.lock_of_commit locked).1
  | released operation changed =>
      rw [changed] at locked
      exact unleased key draft (Cell.lock_of_rollback locked).1

/-- An operation that updates no message and claims nothing locks no claimed row. -/
theorem unmarking_executed {answer : Except Error op.Answer} (unmarking : Unmarking run world)
    (neutral : NoLease op) (executed : World.Executed run world op after answer) : Unmarking run after := by
  intro key draft row locked committed
  cases executed.cell .outbox_messages key with
  | kept unchanged => exact unmarking key draft row (unchanged ▸ locked) (unchanged ▸ committed)
  | locked query limit seen operation => exact absurd operation (neutral.lock query limit)
  | updated statement time seen operation => exact absurd operation (neutral.update statement)
  | claimed query limit statement time seen operation =>
      exact absurd operation (neutral.claim query limit statement)
  | deleted cutoff seen operation table visible selected free changed =>
      rw [changed] at committed
      change (world.cell .outbox_messages key).committed = some row at committed
      rcases Cell.heldByOther_eq_false_iff.mp free with unlocked | ⟨old, mine⟩
      · have same : seen = row := by
          rw [Cell.visible_of_not_heldBy (fun ⟨_, mine⟩ => by rw [unlocked] at mine; cases mine),
            committed] at visible
          exact (Option.some.inj visible).symm
        subst same
        simp only [purgeable, Bool.and_eq_true, Bool.or_eq_true, decide_eq_true_eq] at selected
        rcases selected.1 with finished | finished
        · rw [finished]
          exact fun impossible => by cases impossible
        · rw [finished]
          exact fun impossible => by cases impossible
      · exact unmarking key old row mine committed
  | added found operation own vacant changed =>
      rw [changed] at committed
      cases committed
  | inserted found operation table => cases table
  | committed operation changed =>
      rw [changed] at locked committed
      rcases Cell.lock_of_commit locked with ⟨before, free⟩
      rw [Cell.commit_of_not_heldBy free] at committed
      exact unmarking key draft row before committed
  | released operation changed =>
      rw [changed] at locked committed
      rw [Cell.rollback_committed] at committed
      exact unmarking key draft row (Cell.lock_of_rollback locked).1 committed

theorem idle_executed {answer : Except Error op.Answer} (idle : Idle run world)
    (publish : forall messages concurrency, op ≠ .publish_all messages concurrency)
    (executed : World.Executed run world op after answer) : Idle run after := by
  rcases own_publishing_executed executed with same | none | ⟨messages, concurrency, operation, _⟩
  · rw [Idle, same]
    exact idle
  · rw [Idle, none]
    rfl
  · exact absurd operation (publish messages concurrency)

theorem own_of_trace {event : Event} (trace : after.trace = (.run run, event) :: world.trace) :
    after.own run = event :: world.own run := by
  simp [World.own, trace]

theorem own_of_same (trace : after.trace = world.trace) : after.own run = world.own run := by
  rw [World.own, trace, World.own]

theorem unclaimed_executed {answer : Except Error op.Answer} (unclaimed : Unclaimed run world)
    (unleased : Unleased run world) (executed : World.Executed run world op after answer) :
    Unclaimed run after := by
  intro key row current
  rcases executed.trace with same | ⟨event, recorded, same⟩
  · exact unclaimed key row (current.of_own (own_of_same same))
  · by_cases commit : Exists fun record => event = .committed record
    · rcases commit with ⟨record, rfl⟩
      cases recorded
      have committed : Current run key row (world.commit run) := by
        refine current.of_own ?_
        rw [own_of_trace same]
        exact (World.own_note_self (.committed (world.record run))).symm
      rcases current_commit_iff.mp committed with ⟨locked, _, processing, _⟩
      exact unleased key row locked processing
    · exact unclaimed key row (current.of_note (own_of_trace same) (fun record same => commit ⟨record, same⟩))

theorem Bystander.executed {answer : Except Error op.Answer} (bystander : Bystander run world)
    (neutral : NoLease op) (executed : World.Executed run world op after answer) : Bystander run after where
  unleased := unleased_executed bystander.unleased neutral.proper neutral.lock neutral.claim executed
  unmarking := unmarking_executed bystander.unmarking neutral executed
  idle := idle_executed bystander.idle neutral.publish executed
  unclaimed := unclaimed_executed bystander.unclaimed bystander.unleased executed

/-! ## Stability -/

theorem Free.stable (free : Free run world) (frame : LeaseFrame run world after) : Free run after := by
  intro key held
  have same := frame.untouched.tables .outbox_messages key (.inr held)
  have before : ((world.tables .outbox_messages).cell key).HeldBy run := same ▸ held
  exact free key before

theorem Unleased.stable (unleased : Unleased run world) (frame : LeaseFrame run world after) :
    Unleased run after := by
  intro key draft locked
  have same := frame.untouched.tables .outbox_messages key (.inr ⟨_, locked⟩)
  have before : ((world.tables .outbox_messages).cell key).lock = some (run, some draft) := same ▸ locked
  exact unleased key draft before

theorem Unmarking.stable (unmarking : Unmarking run world) (frame : LeaseFrame run world after) :
    Unmarking run after := by
  intro key draft row locked committed
  have same := frame.untouched.tables .outbox_messages key (.inr ⟨draft, locked⟩)
  have before : ((world.tables .outbox_messages).cell key).lock = some (run, draft) := same ▸ locked
  have row_before : ((world.tables .outbox_messages).cell key).committed = some row := same ▸ committed
  exact unmarking key draft row before row_before

theorem Idle.stable (idle : Idle run world) (frame : LeaseFrame run world after) : Idle run after := by
  have tasks := frame.untouched.publishing.tasks
  rw [idle, List.forall₂_nil_left_iff] at tasks
  exact tasks

theorem Unclaimed.stable (unclaimed : Unclaimed run world) (frame : LeaseFrame run world after) :
    Unclaimed run after :=
  fun key row current => unclaimed key row (current.of_own frame.untouched.own)

def bystander (run : RunId) : (outbox_discipline deployment).Assertion run :=
  .own (Bystander run) (fun _ _ frame known =>
    ⟨known.unleased.stable frame, known.unmarking.stable frame, known.idle.stable frame,
      known.unclaimed.stable frame⟩)

/-- A program that calls no lease operation respects the discipline. -/
theorem bystander_triple {X : Type} {program : Program X} (calls : program.OnlyCalls NoLease) :
    (outbox_discipline deployment).Triple (bystander run) program (fun _ => bystander run)
      (fun _ => bystander run) :=
  Discipline.Triple.of_onlyCalls (bystander run) (fun _ neutral _ _ known => neutral.permits known)
    (fun _ neutral _ _ _ _ _ known ran _ => Bystander.executed known neutral (World.exec_executed ran))
    (fun _ _ _ known => known) (fun _ _ _ known => known) calls

theorem no_lease_of_ne (add : forall row, op ≠ .add .outbox_messages row)
    (update : forall statement, op ≠ .update .outbox_messages statement)
    (claim : forall query limit statement, op ≠ .update_claimable .outbox_messages query limit statement)
    (lock : forall query limit, op ≠ .select_for_update .outbox_messages query limit)
    (publish : forall messages concurrency, op ≠ .publish_all messages concurrency) : NoLease op :=
  ⟨proper_of_ne add update claim, update, claim, lock, publish⟩

theorem no_lease_scope (ends : ScopeCalls op) : NoLease op := by
  cases ends <;> exact no_lease_of_ne (by simp) (by simp) (by simp) (by simp) (by simp)

theorem no_lease_create (calls : CreateCalls op) : NoLease op := by
  cases calls with
  | event id event => exact ⟨proper_add id event, by simp, by simp, by simp, by simp⟩
  | scope ends => exact no_lease_scope ends
  | _ => exact no_lease_of_ne (by simp) (by simp) (by simp) (by simp) (by simp)

theorem no_lease_process (calls : ProcessCalls op) : NoLease op := by
  cases calls with
  | scope ends => exact no_lease_scope ends
  | _ => exact no_lease_of_ne (by simp) (by simp) (by simp) (by simp) (by simp)

theorem no_lease_get (calls : GetCalls op) : NoLease op := by
  cases calls with
  | scope ends => exact no_lease_scope ends
  | _ => exact no_lease_of_ne (by simp) (by simp) (by simp) (by simp) (by simp)

theorem no_lease_deliver (calls : DeliverCalls op) : NoLease op := by
  cases calls with
  | scope ends => exact no_lease_scope ends
  | _ => exact no_lease_of_ne (by simp) (by simp) (by simp) (by simp) (by simp)

theorem no_lease_consume (calls : ConsumeCalls op) : NoLease op := by
  cases calls with
  | process calls => exact no_lease_process calls
  | _ => exact no_lease_of_ne (by simp) (by simp) (by simp) (by simp) (by simp)

end Properties
end Payments
