import Payments.Properties.DeliveryBatches
import Payments.Properties.PaymentConsumers

namespace Payments
namespace Properties

open Concurrency Domain Infrastructure Application Prog UnitOfWork Payments.System

/-!
# What a run holds while it waits

A transaction is closed in every case, so a run holds rows only between two
operations of its own program.  A handler may have to wait for a row that
another transaction holds.  It then holds nothing itself: the first statement
that may wait comes before its first write, and every later one names a row
that the run has locked already.  The outbox worker alone updates rows that
other runs may hold while it holds some.
-/

variable {deployment : Deployment} {world after : World} {run : RunId} {op : Op} {id : UUID} {X : Type}

/-- When a handler may execute a statement that can wait. -/
structure LockPermits (run : RunId) (op : Op) (world : World) : Prop where
  inserting : forall row, op = .insert_on_conflict_do_nothing row -> Clear run world
  moving : forall id version status target time,
    op = .update .payments (.payment_transition id version status target time) ->
    Clear run world ∨ (world.cell .payments id).HeldBy run
  attempting : forall attempt, op = .update .payment_attempts (.attempt_progress attempt) ->
    (world.cell .payment_attempts attempt.id).HeldBy run
  delivering : forall delivery, op = .update .webhook_deliveries (.delivery_progress delivery) ->
    (world.cell .webhook_deliveries delivery.id).HeldBy run

def lock_discipline (deployment : Deployment) : Discipline (service deployment) where
  inv := World.Keyed
  evolves := fun _ _ => True
  frame := World.Untouched
  permits := LockPermits
  allowed := fun _ _ => True
  evolves_refl := fun _ => trivial
  evolves_trans := fun _ _ => trivial
  frame_refl := World.Untouched.refl
  frame_trans := World.Untouched.trans

theorem lock_upheld (deployment : Deployment) : (lock_discipline deployment).Upheld World.initial where
  initially := World.keyed_initially
  starts := by
    intro run job world after kept started _
    rcases start_cases started with rfl | ⟨settings, message, _, _, rfl⟩
    · exact ⟨kept, trivial, fun other _ => .refl other after⟩
    · exact ⟨kept.of_tables rfl, trivial, fun other different => untouched_deliver different⟩
  operations := by
    intro run op choice world after answer kept _ ran _
    have executed := World.exec_executed ran
    exact ⟨kept.executed executed, trivial, fun other different => executed.untouched different⟩
  crashes := by
    intro run world kept _
    exact ⟨kept.crash, trivial, fun other different => World.crash_untouched different⟩
  environment := by
    intro event world after kept happened _
    have occurred := World.happen_occurred happened
    exact ⟨kept.of_tables occurred.tables, trivial, fun run => occurred.untouched run⟩

/-! ## Assertions -/

/-- A fact about what the run has to itself. -/
def owning (run : RunId) (holds : World -> Prop)
    (stable : forall before after, World.Untouched run before after -> holds before -> holds after) :
    (lock_discipline deployment).Assertion run where
  holds := holds
  stable := fun before rely _ => stable _ _ rely.1 before

def unlocked (run : RunId) : (lock_discipline deployment).Assertion run :=
  owning run (Clear run) (fun _ _ untouched known => known.stable untouched)

def anyhow (run : RunId) : (lock_discipline deployment).Assertion run :=
  .fact True

theorem held_untouched {name : TableName} (untouched : World.Untouched run world after)
    (held : (world.cell name id).HeldBy run) : (after.cell name id).HeldBy run := by
  have same : after.cell name id = world.cell name id := untouched.tables name id (.inl held)
  exact same ▸ held

/-- Operations that write no row and take no lock. -/
def takes_locks : Op -> Bool
  | .select_for_update _ _ _ => true
  | .update _ _ => true
  | .update_claimable _ _ _ _ => true
  | .delete_finished _ => true
  | .add _ _ => true
  | .insert_on_conflict_do_nothing _ => true
  | _ => false

theorem Clear.executed {answer : Except Error op.Answer} (clear : Clear run world) (apart : takes_locks op = false)
    (executed : World.Executed run world op after answer) : Clear run after := by
  intro name key held
  cases executed.cell name key with
  | kept same => exact clear name key (same ▸ held)
  | locked query limit row operation => cases operation ▸ apart
  | updated statement time row operation => cases operation ▸ apart
  | claimed query limit statement time row operation => cases operation ▸ apart
  | deleted cutoff row operation => cases operation ▸ apart
  | added row operation => cases operation ▸ apart
  | inserted row operation => cases operation ▸ apart
  | committed operation same => exact Cell.not_heldBy_commit (same ▸ held)
  | released operation same => exact Cell.not_heldBy_rollback (same ▸ held)

/-- The statements the discipline says nothing about. -/
structure Unlimited (op : Op) : Prop where
  inserting : forall row, op ≠ .insert_on_conflict_do_nothing row
  updating : forall name statement, op = .update name statement -> name = .outbox_messages

theorem Unlimited.permits (free : Unlimited op) : LockPermits run op world where
  inserting := fun row same => absurd same (free.inserting row)
  moving := fun id version status target time same => by cases free.updating _ _ same
  attempting := fun attempt same => by cases free.updating _ _ same
  delivering := fun delivery same => by cases free.updating _ _ same

theorem anyhow_triple {program : Program X} (calls : program.OnlyCalls Unlimited) :
    (lock_discipline deployment).Triple (anyhow run) program (fun _ => anyhow run) (fun _ => anyhow run) :=
  Discipline.Triple.of_onlyCalls (anyhow run) (fun _ free _ _ _ => free.permits) (fun _ _ _ _ _ _ _ _ _ _ => trivial)
    (fun _ _ _ _ => trivial) (fun _ _ _ _ => trivial) calls

/-- Operations that leave a run without rows as it is. -/
structure Lockless (op : Op) : Prop where
  unlimited : Unlimited op
  apart : takes_locks op = false

theorem unlocked_triple {program : Program X} (calls : program.OnlyCalls Lockless) :
    (lock_discipline deployment).Triple (unlocked run) program (fun _ => unlocked run) (fun _ => unlocked run) :=
  Discipline.Triple.of_onlyCalls (unlocked run) (fun _ free _ _ _ => free.unlimited.permits)
    (fun _ free _ _ _ _ _ known ran _ => Clear.executed known free.apart (service_executed ran))
    (fun _ _ _ known => known) (fun _ _ _ known => known) calls

theorem lockless_of_ne (inserts : forall row, op ≠ .insert_on_conflict_do_nothing row)
    (updates : forall name statement, op ≠ .update name statement) (apart : takes_locks op = false) : Lockless op :=
  ⟨⟨inserts, fun name statement same => absurd same (updates name statement)⟩, apart⟩

theorem unlimited_scope (ends : ScopeCalls op) : Unlimited op := by
  cases ends <;> exact ⟨by simp, by simp⟩

/-! ## Transactions -/

/-- Whatever the body has done, its run holds nothing once the transaction has ended. -/
theorem scope_unlocked {pre : (lock_discipline deployment).Assertion run} {body : Program X}
    (first : (lock_discipline deployment).Triple pre body (fun _ => anyhow run) (fun _ => anyhow run)) :
    (lock_discipline deployment).Triple pre (scope body) (fun _ => unlocked run) (fun _ => unlocked run) := by
  have rollback : (lock_discipline deployment).Triple (anyhow run) (await .rollback) (fun _ => unlocked run)
      (fun _ => unlocked run) := by
    refine Discipline.Triple.perform (fun _ _ _ => (unlimited_scope .rollback).permits)
      (fun state _ _ _ _ _ ran _ _ => ?_) (fun state _ _ _ _ _ ran _ _ => ?_)
    · rw [World.exec_rollback_eq ran]
      exact clear_rollback run state
    · rw [World.exec_rollback_eq ran]
      exact clear_rollback run state
  have close : forall {known : (lock_discipline deployment).Assertion run},
      (lock_discipline deployment).Triple known (await .close) (fun _ => unlocked run) (fun _ => unlocked run) := by
    intro known
    refine Discipline.Triple.perform (fun _ _ _ => (unlimited_scope .close).permits)
      (fun state _ _ _ _ _ ran _ _ => ?_) (fun state _ _ _ _ _ ran _ _ => ?_)
    · rw [World.exec_close_eq ran]
      exact clear_release run state
    · rw [World.exec_close_eq ran]
      exact clear_release run state
  exact scope_triple first (fun _ => rollback) (fun _ => close) (fun _ => close)

theorem transactional_unlocked {pre : (lock_discipline deployment).Assertion run} {body : Program X} {commit : Bool}
    (first : (lock_discipline deployment).Triple pre body (fun _ => anyhow run) (fun _ => anyhow run)) :
    (lock_discipline deployment).Triple pre (transactional commit body) (fun _ => unlocked run)
      (fun _ => unlocked run) := by
  refine scope_unlocked (Discipline.Triple.bind first (fun value => anyhow_triple ?_))
  cases commit with
  | true => exact OnlyCalls.bind (OnlyCalls.perform (unlimited_scope .commit)) (fun _ => OnlyCalls.ret _)
  | false => exact OnlyCalls.ret _

/-! ## Creating a payment -/

theorem create_unlocked (command : CreatePaymentCommand) :
    (lock_discipline deployment).Triple (unlocked run) (CreatePaymentHandler.handle command) (fun _ => unlocked run)
      (fun _ => unlocked run) := by
  refine transactional_unlocked ?_
  have now : (lock_discipline deployment).Triple (unlocked run) (await .now) (fun _ => unlocked run)
      (fun _ => anyhow run) :=
    Discipline.Triple.weaken (unlocked_triple (OnlyCalls.perform (lockless_of_ne (by simp) (by simp) rfl)))
      (fun _ _ known => known) (fun _ _ _ known => known) (fun _ _ _ _ => trivial)
  have uuid7 : (lock_discipline deployment).Triple (unlocked run) (await .uuid7) (fun _ => unlocked run)
      (fun _ => anyhow run) :=
    Discipline.Triple.weaken (unlocked_triple (OnlyCalls.perform (lockless_of_ne (by simp) (by simp) rfl)))
      (fun _ _ known => known) (fun _ _ _ known => known) (fun _ _ _ _ => trivial)
  have insert : forall row, (lock_discipline deployment).Triple (unlocked run)
      (await (.insert_on_conflict_do_nothing row)) (fun _ => anyhow run) (fun _ => anyhow run) := by
    intro row
    refine Discipline.Triple.perform (fun world _ known => ⟨fun _ _ => known, by simp, by simp, by simp⟩)
      (fun _ _ _ _ _ _ _ _ _ => trivial) (fun _ _ _ _ _ _ _ _ _ => trivial)
  refine Discipline.Triple.bind now (fun now => ?_)
  refine Discipline.Triple.ofExcept_bind (fun _ _ _ _ _ => trivial) (fun values valid => ?_)
  refine Discipline.Triple.bind uuid7 (fun id => ?_)
  refine Discipline.Triple.bind (Discipline.Triple.bind (insert _) (fun _ => anyhow_triple (OnlyCalls.ret _)))
    (fun inserted => anyhow_triple ?_)
  cases inserted with
  | none =>
      refine OnlyCalls.bind (OnlyCalls.bind (OnlyCalls.perform ⟨by simp, by simp⟩) (fun rows => ?_))
        (fun existing => ?_)
      · match rows with
        | [] => exact OnlyCalls.ret _
        | [_] => exact OnlyCalls.bind (OnlyCalls.ofExcept _) (fun _ => OnlyCalls.ret _)
        | _ :: _ :: _ => exact OnlyCalls.raise _
      · cases existing with
        | none => exact OnlyCalls.raise _
        | some existing => exact OnlyCalls.ret _
  | some payment =>
      refine OnlyCalls.bind (OnlyCalls.forEach (fun event => ?_) _) (fun _ => OnlyCalls.ret _)
      exact OnlyCalls.bind (OnlyCalls.perform ⟨by simp, by simp⟩) (fun _ => OnlyCalls.perform ⟨by simp, by simp⟩)

/-! ## Processing a payment -/

/-- Operations inside of a transaction that neither write nor lock a row. -/
structure Between (op : Op) : Prop where
  lockless : Lockless op
  not_commit : op ≠ .commit
  not_rollback : op ≠ .rollback
  not_close : op ≠ .close

theorem between_executed {answer : Except Error op.Answer} (between : Between op)
    (executed : World.Executed run world op after answer) :
    after.tables = world.tables ∧ after.refusing = world.refusing := by
  cases executed with
  | locked => cases between.lockless.apart
  | updated => cases between.lockless.apart
  | claimed => cases between.lockless.apart
  | deleted => cases between.lockless.apart
  | added => cases between.lockless.apart
  | inserted => cases between.lockless.apart
  | add_refused => cases between.lockless.apart
  | committed => exact absurd rfl between.not_commit
  | rolled_back => exact absurd rfl between.not_rollback
  | closed => exact absurd rfl between.not_close
  | _ => exact ⟨rfl, rfl⟩

/-- The run holds the payment, and the attempt unless its session accepts nothing any more. -/
structure Attempting (run : RunId) (id attempt_id : UUID) (world : World) : Prop where
  payment : (world.cell .payments id).HeldBy run
  attempt : world.refusing run = true ∨ (world.cell .payment_attempts attempt_id).HeldBy run

theorem Attempting.executed {attempt_id : UUID} {answer : Except Error op.Answer}
    (attempting : Attempting run id attempt_id world) (between : Between op)
    (executed : World.Executed run world op after answer) : Attempting run id attempt_id after := by
  rcases between_executed between executed with ⟨tables, refusing⟩
  refine ⟨?_, ?_⟩
  · rw [World.cell, tables]
    exact attempting.payment
  · rw [World.cell, tables, refusing]
    exact attempting.attempt

def holding_run (run : RunId) (id : UUID) : (lock_discipline deployment).Assertion run :=
  owning run (fun world => (world.cell .payments id).HeldBy run) (fun _ _ untouched known => held_untouched untouched known)

def attempting_run (run : RunId) (id attempt_id : UUID) : (lock_discipline deployment).Assertion run :=
  owning run (Attempting run id attempt_id) (fun _ _ untouched known =>
    ⟨held_untouched untouched known.payment,
      known.attempt.imp untouched.refusing.trans (held_untouched untouched)⟩)

def settled_run (run : RunId) (attempt_id : UUID) : (lock_discipline deployment).Assertion run :=
  owning run (fun world => (world.cell .payment_attempts attempt_id).HeldBy run)
    (fun _ _ untouched known => held_untouched untouched known)

theorem holding_triple {program : Program X} (calls : program.OnlyCalls Between) :
    (lock_discipline deployment).Triple (holding_run run id) program (fun _ => holding_run run id)
      (fun _ => anyhow run) := by
  refine Discipline.Triple.of_onlyCalls (holding_run run id) (fun _ free _ _ _ => free.lockless.unlimited.permits)
    (fun op free world _ after _ _ known ran _ => ?_) (fun _ _ _ known => known) (fun _ _ _ _ => trivial) calls
  have known : (world.cell .payments id).HeldBy run := known
  change (after.cell .payments id).HeldBy run
  rwa [World.cell, (between_executed free (service_executed ran)).1]

theorem attempting_triple {attempt_id : UUID} {program : Program X} (calls : program.OnlyCalls Between) :
    (lock_discipline deployment).Triple (attempting_run run id attempt_id) program
      (fun _ => attempting_run run id attempt_id) (fun _ => anyhow run) :=
  Discipline.Triple.of_onlyCalls (attempting_run run id attempt_id)
    (fun _ free _ _ _ => free.lockless.unlimited.permits)
    (fun _ free _ _ _ _ _ known ran _ => Attempting.executed known free (service_executed ran))
    (fun _ _ _ known => known) (fun _ _ _ _ => trivial) calls

/-- The operations that no transaction is needed for. -/
theorem between_simple (inserts : forall row, op ≠ .insert_on_conflict_do_nothing row)
    (updates : forall name statement, op ≠ .update name statement) (apart : takes_locks op = false)
    (commit : op ≠ .commit) (rollback : op ≠ .rollback) (close : op ≠ .close) : Between op :=
  ⟨lockless_of_ne inserts updates apart, commit, rollback, close⟩

theorem moving_permits {version : Nat} {status target : PaymentStatus} {time : Option Datetime}
    (known : Clear run world ∨ (world.cell .payments id).HeldBy run) :
    LockPermits run (.update .payments (.payment_transition id version status target time)) world where
  inserting := by simp
  moving := by
    intro id' version' status' target' time' same
    cases same
    exact known
  attempting := by simp
  delivering := by simp

/-- A claim that succeeds locks the payment. -/
theorem locking_triple (version : Nat) (status : PaymentStatus) :
    (lock_discipline deployment).Triple (unlocked run) (SqlAlchemyPaymentRepository.begin_processing id version status)
      (fun claimed => owning run (fun world => claimed = true -> (world.cell .payments id).HeldBy run)
        (fun _ _ untouched known yes => held_untouched untouched (known yes))) (fun _ => anyhow run) := by
  have updated : (lock_discipline deployment).Triple (unlocked run)
      (await (.update .payments (.payment_transition id version status .PROCESSING none)))
      (fun (rows : List PaymentModel) => owning run
        (fun world => (rows.length == 1) = true -> (world.cell .payments id).HeldBy run)
        (fun _ _ untouched known yes => held_untouched untouched (known yes))) (fun _ => anyhow run) := by
    refine Discipline.Triple.perform (fun world _ known => moving_permits (.inl known))
      (fun world _ after rows keyed _ ran _ _ yes => ?_) (fun _ _ _ _ _ _ _ _ _ => trivial)
    cases (service_executed ran).updated_at keyed transition_named with
    | missed unmatched empty => cases empty ▸ yes
    | matched row time seen selected free single written others => exact written ▸ ⟨_, rfl⟩
  exact Discipline.Triple.bind updated (fun rows => Discipline.Triple.ret (fun _ _ known => known))

/-- The end of the charge is written to the locked payment, so the session still accepts statements. -/
theorem finishing_triple {attempt_id : UUID} (version : Nat) (status target : PaymentStatus) (time : Option Datetime) :
    (lock_discipline deployment).Triple (attempting_run run id attempt_id)
      (do
        let rows : List PaymentModel ← await (.update .payments (.payment_transition id version status target time))
        return rows.length == 1)
      (fun _ => settled_run run attempt_id) (fun _ => anyhow run) := by
  have updated : (lock_discipline deployment).Triple (attempting_run run id attempt_id)
      (await (.update .payments (.payment_transition id version status target time)))
      (fun _ => settled_run run attempt_id) (fun _ => anyhow run) := by
    refine Discipline.Triple.perform (fun world _ known => moving_permits (.inr known.payment))
      (fun world _ after rows _ known ran _ _ => ?_) (fun _ _ _ _ _ _ _ _ _ => trivial)
    have executed := service_executed ran
    have held : (world.cell .payment_attempts attempt_id).HeldBy run := by
      rcases known.attempt with refusing | held
      · cases refusing.symm.trans (accepting_updated executed).1
      · exact held
    exact (executed.cell .payment_attempts attempt_id).held held (by simp) (by simp) (by simp)
  exact Discipline.Triple.bind updated (fun rows => Discipline.Triple.ret (fun _ _ known => known))

theorem settle_unlocked (payment : Payment) {attempt : PaymentAttempt} (named : payment.id = id)
    (last : payment.attempts.getLast? = some attempt) (result : GatewayResult) (time : Datetime) :
    (lock_discipline deployment).Triple (attempting_run run id attempt.id) (ProcessPaymentHandler.settle payment result time)
      (fun settled => settled_run run settled.1.id) (fun _ => anyhow run) := by
  rw [ProcessPaymentHandler.settle]
  split
  · refine Discipline.Triple.ofExcept_bind (fun _ _ _ _ _ => trivial) (fun ended attempted => ?_)
    refine Discipline.Triple.ofExcept_bind (fun _ _ _ _ _ => trivial) (fun marked done => ?_)
    have ends := ended_succeeded last attempted
    have same : marked.id = id := (marked_succeeded done).id.trans (ends.id.trans named)
    rw [same]
    refine Discipline.Triple.bind (finishing_triple _ _ _ _) (fun claimed => Discipline.Triple.ret (fun _ _ known => ?_))
    rw [ends.attempt_id]
    exact known
  · refine Discipline.Triple.ofExcept_bind (fun _ _ _ _ _ => trivial) (fun ended attempted => ?_)
    refine Discipline.Triple.ofExcept_bind (fun _ _ _ _ _ => trivial) (fun marked done => ?_)
    have ends := ended_failed last attempted
    have same : marked.id = id := (marked_failed done).id.trans (ends.id.trans named)
    rw [same]
    refine Discipline.Triple.bind (finishing_triple _ _ _ _) (fun claimed => Discipline.Triple.ret (fun _ _ known => ?_))
    rw [ends.attempt_id]
    exact known

theorem charge_unlocked (command : ProcessPaymentCommand) {payment : Payment} (named : payment.id = id)
    (started_at : Datetime) :
    (lock_discipline deployment).Triple (holding_run run id) (ProcessPaymentHandler.charge command payment started_at)
      (fun _ => anyhow run) (fun _ => anyhow run) := by
  have attempts : (SqlAlchemyAttemptRepository.get_by_payment_id payment.id).OnlyCalls Between :=
    OnlyCalls.bind (OnlyCalls.perform (between_simple (by simp) (by simp) rfl (by simp) (by simp) (by simp)))
      (fun _ => OnlyCalls.ret _)
  have uuid7 : (await .uuid7).OnlyCalls Between :=
    OnlyCalls.perform (between_simple (by simp) (by simp) rfl (by simp) (by simp) (by simp))
  refine Discipline.Triple.bind (holding_triple attempts) (fun existing => ?_)
  refine Discipline.Triple.bind (holding_triple uuid7) (fun attempt_id => ?_)
  refine Discipline.Triple.ofExcept_bind (fun _ _ _ _ _ => trivial) (fun begun begin => ?_)
  rcases begun with ⟨charged, attempt⟩
  have begins := begun_with begin
  have same : charged.id = id := begins.id.trans named
  have added : (lock_discipline deployment).Triple (holding_run run id) (SqlAlchemyAttemptRepository.add attempt)
      (fun _ => attempting_run run id attempt.id) (fun _ => anyhow run) := by
    refine Discipline.Triple.perform (fun world _ _ => ⟨by simp, by simp, by simp, by simp⟩)
      (fun world _ after _ _ known ran _ _ => ?_) (fun _ _ _ _ _ _ _ _ _ => trivial)
    have executed := service_executed ran
    refine ⟨(executed.cell .payments id).held known (by simp) (by simp) (by simp), ?_⟩
    cases executed with
    | added name row storable unlisted =>
        refine .inr ?_
        change (World.cell .payment_attempts (@Row.id .payment_attempts (PaymentAttemptModel.of_attempt attempt)) _).HeldBy
          run
        rw [World.cell_set_table_self, Table.put_cell_self]
        exact ⟨_, rfl⟩
    | add_refused name row => exact .inl (Function.update_self _ _ _)
  refine Discipline.Triple.bind added (fun _ => ?_)
  refine Discipline.Triple.bind (attempting_triple (OnlyCalls.perform
    (between_simple (by simp) (by simp) rfl (by simp) (by simp) (by simp)))) (fun _ => ?_)
  refine Discipline.Triple.bind (attempting_triple (OnlyCalls.perform
    (between_simple (by simp) (by simp) rfl (by simp) (by simp) (by simp)))) (fun result => ?_)
  refine Discipline.Triple.bind (attempting_triple (OnlyCalls.perform
    (between_simple (by simp) (by simp) rfl (by simp) (by simp) (by simp)))) (fun finished_at => ?_)
  refine Discipline.Triple.bind (settle_unlocked charged same begins.last result finished_at) (fun settled => ?_)
  dsimp only
  split
  · exact Discipline.Triple.raise (fun _ _ _ => trivial)
  · have progress : (lock_discipline deployment).Triple (settled_run run settled.1.id)
        (await (.update .payment_attempts (.attempt_progress settled.1))) (fun _ => anyhow run) (fun _ => anyhow run) := by
      refine Discipline.Triple.perform (fun world _ known => ⟨by simp, by simp, ?_, by simp⟩)
        (fun _ _ _ _ _ _ _ _ _ => trivial) (fun _ _ _ _ _ _ _ _ _ => trivial)
      intro saved operation
      cases operation
      exact known
    refine Discipline.Triple.bind (Discipline.Triple.bind progress (fun _ => anyhow_triple (OnlyCalls.ret _)))
      (fun _ => anyhow_triple ?_)
    refine OnlyCalls.bind (OnlyCalls.perform ⟨by simp, by simp⟩) (fun delivery_id => ?_)
    exact OnlyCalls.bind (OnlyCalls.perform ⟨by simp, by simp⟩) (fun _ => OnlyCalls.ret _)

theorem process_unlocked (command : ProcessPaymentCommand) :
    (lock_discipline deployment).Triple (unlocked run) (ProcessPaymentHandler.handle command) (fun _ => unlocked run)
      (fun _ => unlocked run) := by
  refine transactional_unlocked ?_
  have lockless : forall {Y : Type} {program : Program Y}, program.OnlyCalls Lockless ->
      (lock_discipline deployment).Triple (unlocked run) program (fun _ => unlocked run) (fun _ => anyhow run) :=
    fun calls => Discipline.Triple.weaken (unlocked_triple calls) (fun _ _ known => known) (fun _ _ _ known => known)
      (fun _ _ _ _ => trivial)
  have returns : forall result : PaymentProcessingResult, (lock_discipline deployment).Triple (unlocked run)
      (return result : Program PaymentProcessingResult) (fun _ => anyhow run) (fun _ => anyhow run) :=
    fun _ => Discipline.Triple.ret (fun _ _ _ => trivial)
  refine Discipline.Triple.bind (lockless (get_payment_calls (lockless_of_ne (by simp) (by simp) rfl))) (fun found => ?_)
  cases found with
  | none => exact returns _
  | some payment =>
      dsimp only
      split
      · exact returns _
      · split
        · exact returns _
        · refine Discipline.Triple.bind (lockless (OnlyCalls.perform (lockless_of_ne (by simp) (by simp) rfl)))
            (fun started_at => ?_)
          refine Discipline.Triple.ofExcept_bind (fun _ _ _ _ _ => trivial) (fun processing marked => ?_)
          refine Discipline.Triple.bind (locking_triple _ _) (fun claimed => ?_)
          split
          · exact Discipline.Triple.ret (fun _ _ _ => trivial)
          · next yes =>
              refine Discipline.Triple.strengthen (charge_unlocked command rfl started_at) (fun world _ known => ?_)
              exact known (by simpa using yes)

/-! ## Delivering webhooks -/

/-- The run has locked all of these deliveries. -/
def LocksAll (run : RunId) (ids : List UUID) (world : World) : Prop :=
  forall id, id ∈ ids -> (world.cell .webhook_deliveries id).HeldBy run

theorem LocksAll.untouched {ids : List UUID} (locks : LocksAll run ids world)
    (untouched : World.Untouched run world after) : LocksAll run ids after :=
  fun id listed => held_untouched untouched (locks id listed)

theorem LocksAll.executed {ids : List UUID} {answer : Except Error op.Answer} (locks : LocksAll run ids world)
    (executed : World.Executed run world op after answer) (not_commit : op ≠ .commit) (not_rollback : op ≠ .rollback)
    (not_close : op ≠ .close) : LocksAll run ids after :=
  fun id listed => (executed.cell .webhook_deliveries id).held (locks id listed) not_commit not_rollback not_close

def batch_run (run : RunId) (ids : List UUID) : (lock_discipline deployment).Assertion run :=
  owning run (LocksAll run ids) (fun _ _ untouched known => known.untouched untouched)

/-- The deliveries that are being sent are locked. -/
def sends_run (run : RunId) : (lock_discipline deployment).Assertion run :=
  owning run (fun world => LocksAll run ((world.sending run).tasks.map (fun task => task.delivery.id)) world) (by
    intro before after untouched known id listed
    rcases List.mem_map.mp listed with ⟨task, member, rfl⟩
    rcases task_untouched untouched member with ⟨earlier, present, delivery, _⟩
    rw [delivery]
    exact held_untouched untouched (known _ (List.mem_map_of_mem present)))

theorem claiming_triple (batch_size : Int) (now : Datetime) :
    (lock_discipline deployment).Triple (unlocked run) (SqlAlchemyWebhookDeliveryRepository.claim_due batch_size now)
      (fun deliveries => batch_run run (deliveries.map WebhookDelivery.id)) (fun _ => anyhow run) := by
  have selected : (lock_discipline deployment).Triple (unlocked run)
      (await (.select_for_update .webhook_deliveries (.due_deliveries now) batch_size))
      (fun (rows : List WebhookDeliveryModel) => batch_run run (rows.map WebhookDeliveryModel.id))
      (fun _ => anyhow run) := by
    refine Discipline.Triple.perform (fun _ _ _ => ⟨by simp, by simp, by simp, by simp⟩)
      (fun world _ after rows keyed _ ran _ _ => ?_) (fun _ _ _ _ _ _ _ _ _ => trivial)
    cases service_executed ran with
    | locked name query limit accepting =>
        intro id listed
        rcases List.mem_map.mp listed with ⟨row, member, rfl⟩
        rcases Table.mem_updateClaimable_rows.mp member with ⟨key, old, claimed, same⟩
        cases same
        have own : WebhookDeliveryModel.id old = key :=
          keyed .webhook_deliveries key old (Cell.carries_of_visible (Table.mem_claimable claimed).1)
        subst own
        rw [World.cell_set_table_self]
        rcases Table.updateClaimable_cell run (Query.due_deliveries now).condition (Query.due_deliveries now).before
          batch_size.toNat id (world.tables .webhook_deliveries) (WebhookDeliveryModel.id old) with
          ⟨_, absent⟩ | ⟨other, _, written⟩
        · exact absurd claimed (absent old)
        · exact ⟨_, congrArg Cell.lock written⟩
  refine Discipline.Triple.bind selected (fun rows => Discipline.Triple.ret (fun _ _ known => ?_))
  rw [List.map_map]
  exact known

theorem progress_permits {delivery : WebhookDelivery}
    (held : (world.cell .webhook_deliveries delivery.id).HeldBy run) :
    LockPermits run (.update .webhook_deliveries (.delivery_progress delivery)) world where
  inserting := by simp
  moving := by simp
  attempting := by simp
  delivering := by
    intro saved same
    cases same
    exact held

theorem recording_triple (retry_policy : RetryPolicy) {ids : List UUID}
    (results : List (WebhookDelivery × Option WebhookSendResult))
    (known : forall result, result ∈ results -> result.1.id ∈ ids) :
    (lock_discipline deployment).Triple (batch_run run ids)
      (DeliverDueWebhooksHandler.record_all retry_policy results) (fun _ => anyhow run) (fun _ => anyhow run) := by
  have kept : (lock_discipline deployment).Triple (batch_run run ids)
      (DeliverDueWebhooksHandler.record_all retry_policy results) (fun _ => batch_run run ids) (fun _ => anyhow run) := by
    induction results with
    | nil => exact Discipline.Triple.ret (fun _ _ known => known)
    | cons result rest inductionHypothesis =>
        have later := inductionHypothesis (fun found listed => known found (List.mem_cons_of_mem _ listed))
        rcases result with ⟨delivery, _ | result⟩
        · exact later
        · have now : (lock_discipline deployment).Triple (batch_run run ids) (await .now) (fun _ => batch_run run ids)
              (fun _ => anyhow run) :=
            Discipline.Triple.perform (fun _ _ _ => ⟨by simp, by simp, by simp, by simp⟩)
              (fun _ _ _ _ _ known ran _ _ =>
                LocksAll.executed known (service_executed ran) (by simp) (by simp) (by simp))
              (fun _ _ _ _ _ _ _ _ _ => trivial)
          have listed : delivery.id ∈ ids := known _ List.mem_cons_self
          have save : forall saved : WebhookDelivery, saved.id = delivery.id ->
              (lock_discipline deployment).Triple (batch_run run ids)
                (await (.update .webhook_deliveries (.delivery_progress saved))) (fun _ => batch_run run ids)
                (fun _ => anyhow run) := by
            intro saved same
            refine Discipline.Triple.perform (fun world _ locks => progress_permits (same ▸ locks _ listed))
              (fun _ _ _ _ _ locks ran _ _ => ?_) (fun _ _ _ _ _ _ _ _ _ => trivial)
            exact LocksAll.executed locks (service_executed ran) (by simp) (by simp) (by simp)
          refine Discipline.Triple.bind (Discipline.Triple.bind now (fun time => ?_))
            (fun _ => Discipline.Triple.bind later (fun _ => Discipline.Triple.ret (fun _ _ known => known)))
          refine Discipline.Triple.ofExcept_bind (fun _ _ _ _ _ => trivial) (fun saved computed => ?_)
          refine Discipline.Triple.bind (Discipline.Triple.bind (save saved (recorded_id computed)) (fun _ =>
            Discipline.Triple.ret (fun _ _ known => known))) (fun _ => Discipline.Triple.ret (fun _ _ known => known))
  exact Discipline.Triple.weaken kept (fun _ _ known => known) (fun _ _ _ _ => trivial) (fun _ _ _ known => known)

theorem deliver_unlocked (batch_size : Int) (retry_policy : RetryPolicy) (concurrency : Int) :
    (lock_discipline deployment).Triple (unlocked run)
      (DeliverDueWebhooksHandler.handle batch_size retry_policy concurrency) (fun _ => unlocked run)
      (fun _ => unlocked run) := by
  refine transactional_unlocked ?_
  have now : (lock_discipline deployment).Triple (unlocked run) (await .now) (fun _ => unlocked run)
      (fun _ => anyhow run) :=
    Discipline.Triple.weaken (unlocked_triple (OnlyCalls.perform (lockless_of_ne (by simp) (by simp) rfl)))
      (fun _ _ known => known) (fun _ _ _ known => known) (fun _ _ _ _ => trivial)
  refine Discipline.Triple.bind now (fun now => Discipline.Triple.bind (claiming_triple batch_size now)
    (fun deliveries => ?_))
  split
  · exact Discipline.Triple.ret (fun _ _ _ => trivial)
  · have load : (lock_discipline deployment).Triple (batch_run run (deliveries.map WebhookDelivery.id))
        (DeliverDueWebhooksHandler.load_payments deliveries [])
        (fun _ => batch_run run (deliveries.map WebhookDelivery.id)) (fun _ => anyhow run) := by
      refine Discipline.Triple.of_onlyCalls (batch_run run (deliveries.map WebhookDelivery.id)) ?_ ?_
        (fun _ _ _ known => known) (fun _ _ _ _ => trivial) (loading_calls deliveries [])
      · rintro op ⟨payment_id, rfl⟩ world _ _
        exact ⟨by simp, by simp, by simp, by simp⟩
      · rintro op ⟨payment_id, rfl⟩ world choice after answer _ known ran _
        exact LocksAll.executed known (service_executed ran) (by simp) (by simp) (by simp)
    have send : forall payments, (lock_discipline deployment).Triple (batch_run run (deliveries.map WebhookDelivery.id))
        (await (.send_all (deliveries.map (fun delivery =>
          (delivery, DeliverDueWebhooksHandler.request payments delivery))) concurrency)) (fun _ => sends_run run)
        (fun _ => anyhow run) := by
      intro payments
      refine Discipline.Triple.perform (fun _ _ _ => ⟨by simp, by simp, by simp, by simp⟩)
        (fun world _ after _ _ known ran _ _ => ?_) (fun _ _ _ _ _ _ _ _ _ => trivial)
      cases service_executed ran with
      | sends_started requests concurrency =>
          intro id listed
          refine known id ?_
          simpa [World.set_sending, List.map_map, Function.comp_def] using listed
    have sent : (lock_discipline deployment).Triple (sends_run run) (await .sent_all)
        (fun (results : List (WebhookDelivery × Option WebhookSendResult)) =>
          batch_run run (results.map (fun result => result.1.id))) (fun _ => anyhow run) := by
      refine Discipline.Triple.perform (fun _ _ _ => ⟨by simp, by simp, by simp, by simp⟩)
        (fun world _ after results _ known ran _ _ => ?_) (fun _ _ _ _ _ _ _ _ _ => trivial)
      cases service_executed ran with
      | sent results quiet ended =>
          intro id listed
          rcases List.mem_map.mp listed with ⟨result, member, rfl⟩
          rcases (send_results ended).2 result member with ⟨task, outcome, present, delivery, _⟩
          exact delivery ▸ known _ (List.mem_map_of_mem present)
    refine Discipline.Triple.bind load (fun payments => ?_)
    refine Discipline.Triple.bind (Discipline.Triple.bind (send payments) (fun _ => sent)) (fun results => ?_)
    refine Discipline.Triple.bind (recording_triple retry_policy results (fun result listed =>
      List.mem_map_of_mem listed)) (fun _ => Discipline.Triple.ret (fun _ _ _ => trivial))

/-! ## Reading, publishing and consuming -/

theorem get_unlocked (query : GetPaymentQuery) :
    (lock_discipline deployment).Triple (unlocked run) (GetPaymentHandler.handle query) (fun _ => unlocked run)
      (fun _ => unlocked run) := by
  refine transactional_unlocked (Discipline.Triple.strengthen (anyhow_triple ?_) (fun _ _ _ => trivial))
  refine OnlyCalls.bind (get_payment_calls ⟨by simp, by simp⟩) (fun found => ?_)
  cases found with
  | none => exact OnlyCalls.raise _
  | some payment =>
      exact OnlyCalls.bind (OnlyCalls.bind (OnlyCalls.perform ⟨by simp, by simp⟩) (fun _ => OnlyCalls.ret _))
        (fun _ => OnlyCalls.ret _)

theorem unlimited_outbox (calls : OutboxCalls op) : Unlimited op := by
  cases calls with
  | scope ends => exact unlimited_scope ends
  | update statement =>
      refine ⟨by simp, fun name statement' same => ?_⟩
      cases same
      rfl
  | _ => exact ⟨by simp, by simp⟩

/-- A transaction of the outbox worker is one of its own. -/
theorem outbox_scope {body : Program X} (calls : body.OnlyCalls OutboxCalls) :
    (lock_discipline deployment).Triple (unlocked run) (scope body) (fun _ => unlocked run) (fun _ => unlocked run) :=
  scope_unlocked (Discipline.Triple.strengthen (anyhow_triple (calls.mono (fun _ => unlimited_outbox)))
    (fun _ _ _ => trivial))

theorem publish_unlocked (settings : Settings) (worker_id : UUID) (now : Datetime) (messages : List OutboxMessage) :
    (lock_discipline deployment).Triple (unlocked run) (OutboxWorker.publish settings worker_id now messages)
      (fun _ => unlocked run) (fun _ => unlocked run) := by
  rw [OutboxWorker.publish]
  split
  · exact Discipline.Triple.raise (fun _ _ known => known)
  · refine Discipline.Triple.bind (unlocked_triple (OnlyCalls.perform (lockless_of_ne (by simp) (by simp) rfl)))
      (fun _ => ?_)
    refine Discipline.Triple.bind (unlocked_triple (OnlyCalls.perform (lockless_of_ne (by simp) (by simp) rfl)))
      (fun results => ?_)
    dsimp only
    split
    · exact Discipline.Triple.ret (fun _ _ known => known)
    · refine outbox_scope (OnlyCalls.bind ?_ (fun _ => OnlyCalls.bind ?_ (fun _ => OnlyCalls.perform (.scope .commit))))
      · exact OnlyCalls.forEach (fun _ => OnlyCalls.bind (update_outbox_calls _) (fun _ => OnlyCalls.ret _)) _
      · exact OnlyCalls.forEach (fun _ => mark_failure_calls _ _ _ _) _

theorem publish_batch_unlocked (settings : Settings) (worker_id : UUID) :
    (lock_discipline deployment).Triple (unlocked run) (OutboxWorker.publish_batch settings worker_id)
      (fun _ => unlocked run) (fun _ => unlocked run) := by
  refine Discipline.Triple.bind (unlocked_triple (OnlyCalls.perform (lockless_of_ne (by simp) (by simp) rfl)))
    (fun now => ?_)
  have claim : (lock_discipline deployment).Triple (unlocked run) (OutboxWorker.claim settings worker_id now)
      (fun _ => unlocked run) (fun _ => unlocked run) := by
    refine outbox_scope (OnlyCalls.bind ?_ (fun _ => OnlyCalls.bind ?_ (fun _ => ?_)))
    · exact OnlyCalls.bind (update_outbox_calls _) (fun _ => OnlyCalls.bind (update_outbox_calls _)
        (fun _ => OnlyCalls.ret _))
    · exact OnlyCalls.bind (OnlyCalls.perform (.claim _ _ _)) (fun _ => OnlyCalls.ret _)
    · exact OnlyCalls.bind (OnlyCalls.perform (.scope .commit)) (fun _ => OnlyCalls.ret _)
  refine Discipline.Triple.bind claim (fun messages => ?_)
  split
  · exact Discipline.Triple.ret (fun _ _ known => known)
  · exact publish_unlocked settings worker_id now messages

theorem purge_unlocked (settings : Settings) :
    (lock_discipline deployment).Triple (unlocked run) (OutboxWorker.purge_processed settings)
      (fun _ => unlocked run) (fun _ => unlocked run) := by
  refine Discipline.Triple.bind (unlocked_triple (OnlyCalls.perform (lockless_of_ne (by simp) (by simp) rfl)))
    (fun now => ?_)
  exact outbox_scope (OnlyCalls.bind (OnlyCalls.bind (update_outbox_calls _) (fun _ => OnlyCalls.ret _))
    (fun _ => OnlyCalls.bind (OnlyCalls.perform (.purge _)) (fun _ => OnlyCalls.perform (.scope .commit))))

theorem logged_unlocked {program : Program Unit}
    (first : (lock_discipline deployment).Triple (unlocked run) program (fun _ => unlocked run) (fun _ => unlocked run)) :
    (lock_discipline deployment).Triple (unlocked run) (OutboxWorker.logged program) (fun _ => unlocked run)
      (fun _ => unlocked run) := by
  refine Discipline.Triple.tryCatch first (fun raised => ?_)
  cases raised with
  | cancelled => exact Discipline.Triple.raise (fun _ _ known => known)
  | _ => exact Discipline.Triple.ret (fun _ _ known => known)

theorem outbox_unlocked (settings : Settings) (worker_id : UUID) (done cycles : Nat) :
    (lock_discipline deployment).Triple (unlocked run) (OutboxWorker.run settings worker_id done cycles)
      (fun _ => unlocked run) (fun _ => unlocked run) := by
  induction cycles generalizing done with
  | zero => exact Discipline.Triple.ret (fun _ _ known => known)
  | succ cycles inductionHypothesis =>
      rw [OutboxWorker.run]
      refine Discipline.Triple.bind (logged_unlocked (publish_batch_unlocked settings worker_id)) (fun _ => ?_)
      split
      · exact Discipline.Triple.raise (fun _ _ known => known)
      · dsimp only
        split
        · exact Discipline.Triple.bind (logged_unlocked (purge_unlocked settings))
            (fun _ => inductionHypothesis (done + 1))
        · exact inductionHypothesis (done + 1)

theorem route_unlocked (settings : Settings) (message : Message) :
    (lock_discipline deployment).Triple (unlocked run) (PaymentConsumerHandler.route settings message)
      (fun _ => unlocked run) (fun _ => unlocked run) := by
  have dlq : (lock_discipline deployment).Triple (unlocked run) (PaymentConsumerHandler.send_to_dlq message)
      (fun _ => unlocked run) (fun _ => unlocked run) :=
    unlocked_triple (OnlyCalls.perform (lockless_of_ne (by simp) (by simp) rfl))
  rw [PaymentConsumerHandler.route]
  split
  · exact dlq
  · exact dlq
  · next event_type aggregate_id correlation_id _ =>
      split
      · exact Discipline.Triple.ret (fun _ _ known => known)
      · split
        · exact dlq
        · cases aggregate_id with
          | missing => exact Discipline.Triple.raise (fun _ _ known => known)
          | malformed => exact Discipline.Triple.raise (fun _ _ known => known)
          | uuid payment_id =>
              exact Discipline.Triple.bind (process_unlocked ⟨payment_id, correlation_id⟩)
                (fun _ => Discipline.Triple.ret (fun _ _ known => known))

theorem consume_unlocked (settings : Settings) (message : Message) :
    (lock_discipline deployment).Triple (unlocked run) (PaymentConsumerHandler.handle settings message)
      (fun _ => unlocked run) (fun _ => unlocked run) := by
  have routed : (lock_discipline deployment).Triple (unlocked run)
      (do PaymentConsumerHandler.route settings message; return true : Program Bool) (fun _ => unlocked run)
      (fun _ => unlocked run) :=
    Discipline.Triple.bind (route_unlocked settings message) (fun _ => Discipline.Triple.ret (fun _ _ known => known))
  refine Discipline.Triple.bind (Discipline.Triple.tryCatch routed (fun raised => ?_)) (fun ended => ?_)
  · cases raised with
    | cancelled => exact Discipline.Triple.raise (fun _ _ known => known)
    | _ => exact Discipline.Triple.ret (fun _ _ known => known)
  · cases ended with
    | true => exact unlocked_triple (OnlyCalls.perform (lockless_of_ne (by simp) (by simp) rfl))
    | false => exact unlocked_triple (OnlyCalls.perform (lockless_of_ne (by simp) (by simp) rfl))

theorem program_unlocked (run : RunId) (job : Job) :
    (lock_discipline deployment).Triple (unlocked run) (program deployment run job) (fun _ => unlocked run)
      (fun _ => unlocked run) := by
  cases job with
  | create command => exact create_unlocked command
  | process command => exact process_unlocked command
  | get query => exact get_unlocked query
  | deliver batch_size concurrency => exact deliver_unlocked _ _ _
  | outbox settings cycles => exact outbox_unlocked settings run 0 cycles
  | consume settings message => exact consume_unlocked settings message

def lock_verified (deployment : Deployment) : (lock_discipline deployment).Verified World.initial where
  upheld := lock_upheld deployment
  idle := unlocked
  post := fun run _ _ => unlocked run
  error := fun run _ _ => unlocked run
  initial_idle := by
    rintro run name key ⟨draft, locked⟩
    cases locked
  programs := by
    intro run job state after _ clear started kept _
    have clear' : Clear run after := by
      rcases start_cases started with rfl | ⟨settings, message, _, _, rfl⟩
      · exact clear
      · exact clear
    exact program_unlocked run job after kept clear'

/-! ## In every reachable state -/

section

variable {state : (service deployment).State} {name : TableName} {key : UUID}

/-- A run that has crashed has lost its transaction. -/
theorem crashed_clear (reached : Machine.Reachable (fun _ _ => True) World.initial state)
    (crashed : state.phase run = .crashed) : Clear run state.shared := by
  induction reached with
  | refl => cases crashed
  | @step state next action earlier taken _ inductionHypothesis =>
      rcases Machine.step_cases taken with
        ⟨other, job, shared, absent, started, rfl⟩ | ⟨other, job, op, rest, choice, outcome, running, ran, rfl⟩ |
        ⟨other, job, op, rest, running, rfl⟩ | ⟨event, shared, happened, rfl⟩
      · by_cases same : run = other
        · subst same
          cases (Machine.State.setPhase_self state run _).symm.trans crashed
        · have before := inductionHypothesis ((Machine.State.setPhase_of_ne state _ same).symm.trans crashed)
          rcases start_cases started with rfl | ⟨settings, message, _, _, rfl⟩
          · exact before
          · exact before
      · by_cases same : run = other
        · subst same
          cases (Machine.State.setPhase_self state run _).symm.trans crashed
        · exact (inductionHypothesis ((Machine.State.setPhase_of_ne state _ same).symm.trans crashed)).stable
            ((service_executed ran).untouched same)
      · by_cases same : run = other
        · subst same
          intro name key held
          exact Cell.not_heldBy_rollback (World.crash_cell name key ▸ held)
        · exact (inductionHypothesis ((Machine.State.setPhase_of_ne state _ same).symm.trans crashed)).stable
            (World.crash_untouched same)
      · exact (inductionHypothesis crashed).stable ((World.happen_occurred happened).untouched run)

/-- Only a run inside its program holds a row. -/
theorem holder_active (reached : Machine.Reachable (fun _ _ => True) World.initial state)
    (held : (state.shared.cell name key).HeldBy run) :
    Exists fun job => Exists fun op => Exists fun next => state.phase run = .running job (.call op next) := by
  have holds := (lock_verified deployment).sound reached
  cases phase : state.phase run with
  | absent => exact absurd held (holds.absent run phase name key)
  | crashed => exact absurd held (crashed_clear reached phase name key)
  | running job rest =>
      cases rest with
      | ret value => exact absurd held (holds.running run job _ phase name key)
      | raise raised => exact absurd held (holds.running run job _ phase name key)
      | call op next => exact ⟨job, op, next, rfl⟩

end

end Properties
end Payments
