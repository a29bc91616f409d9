import Mathlib.Tactic.Linarith
import Payments.Properties.RetryTimes
import Payments.Properties.SplitClaims

namespace Payments
namespace Properties

open Concurrency Domain Infrastructure Application Payments.System

/-!
# The backoff after a failed publish

Between the reading of the clock that a retry time is counted from and the
failure of a publish lie the claim of the batch and every publish before it.
The message is kept back for its whole delay after the failure exactly when
the jitter makes up for this time.
-/

variable {deployment : Deployment}

/-- A publish that fails, the mark of its message in the same cycle, and the
commit of the marks.  The worker still owns the row when it marks it. -/
structure FailedPublish (deployment : Deployment) where
  worker : RunId
  settings : Settings
  cycles : Nat
  index : Nat
  row : OutboxMessageModel
  draft : OutboxMessageModel
  worker_id : UUID
  limit : Int
  retry_at : Option Datetime
  next : Except Error (List OutboxMessageModel) -> Program Unit
  choice : Choice
  choice' : Choice
  failing : (service deployment).State
  failed : (service deployment).State
  marking : (service deployment).State
  marked : (service deployment).State
  committing : (service deployment).State
  committed : (service deployment).State
  reached : Machine.Reachable (fun _ _ => True) World.initial failing
  fails : Machine.step failing (.env (.finish_publish worker index false)) = some failed
  message : ((failing.shared.publishing worker).tasks[index]?).map PublishTask.message = some row.to_domain
  publishes : Machine.Path (fun _ _ => True) failed marking
  asks : marking.phase worker = .running (.outbox settings cycles)
    (.call (.update .outbox_messages (.mark_publish_failure row.id worker_id limit retry_at)) next)
  owns : Owns worker row.id row marking.shared
  marks : Machine.step marking (.perform worker choice) = some marked
  written : (marked.shared.cell .outbox_messages row.id).lock = some (worker, some draft)
  retried : row.attempts < settings.OUTBOX_MAX_ATTEMPTS
  finishes : Machine.Path (fun _ _ => True) marked committing
  commit : committing.pending worker = some .commit
  commits : Machine.step committing (.perform worker choice') = some committed
  installed : committed.shared.cell .outbox_messages row.id = ⟨some draft, none⟩

namespace FailedPublish

variable (failure : FailedPublish deployment)

/-- The time at which the publish fails. -/
def time : Datetime := failure.failing.shared.clock

/-- The delay of the attempt that has failed. -/
def delay : Rat := OutboxWorker.retry_delay failure.settings failure.row.attempts

/-- No claim can take the message, as it has been marked, before its delay
after the failure is over. -/
def Deferred : Prop :=
  forall later, Machine.Path (fun _ _ => True) failure.committed later ->
    forall due max_attempts, Admitted deployment max_attempts ->
      Eligible (later.shared.tables .outbox_messages) due max_attempts failure.row.id failure.draft ->
      failure.time + failure.delay ≤ due

theorem reached_marking : Machine.Reachable (fun _ _ => True) World.initial failure.marking :=
  (failure.reached.step _ failure.fails trivial).trans failure.publishes

/-- What the mark has written. -/
theorem draft_eq : Exists fun retry_time => failure.retry_at = some retry_time ∧
    failure.limit = failure.settings.OUTBOX_MAX_ATTEMPTS ∧ Admitted deployment failure.limit ∧
    failure.draft = { failure.row with
      status := .PENDING
      claimed_at := none
      claimed_by := none
      next_retry_at := some retry_time
      finished_at := none } := by
  have asked := (retry_asked failure.reached_marking failure.asks _ _ _ _ rfl).1
  have permits : LeasePermits deployment failure.worker _ failure.marking.shared :=
    (outbox_verified deployment).permitted failure.reached_marking failure.asks
  have kept := (outbox_verified deployment).invariant failure.reached_marking
  have decided := ((permits.failing _ _ _ _ rfl).2 failure.row failure.owns).2.2
  have below : ¬ failure.limit ≤ failure.row.attempts := by
    rw [asked]
    exact not_le.mpr failure.retried
  cases retry : failure.retry_at with
  | none => exact absurd (decided.mp retry) below
  | some retry_time =>
      refine ⟨retry_time, rfl, asked, permits.limited _ _ rfl rfl, ?_⟩
      rcases Machine.exec_of_pending (Machine.State.pending_of_running failure.asks) failure.marks with ⟨answer, ran⟩
      have changed : failure.marked.shared.cell .outbox_messages failure.row.id ≠
          failure.marking.shared.cell .outbox_messages failure.row.id := by
        intro same
        have locked := failure.written
        rw [same] at locked
        have seen : failure.draft = failure.row :=
          Option.some.inj ((Cell.visible_of_lock locked).symm.trans failure.owns.seen)
        rw [seen] at locked
        exact permits.unleased _ rfl _ _ locked failure.owns.status
      rcases selected_of_changed (service_executed ran) changed with ⟨old, time, seen, _, same⟩
      have own : old = failure.row := Option.some.inj (seen.symm.trans failure.owns.seen)
      subst own
      have written : (failure.worker, some (Update.values (.mark_publish_failure failure.row.id failure.worker_id
          failure.limit failure.retry_at) time failure.row)) = (failure.worker, some failure.draft) :=
        Option.some.inj ((congrArg Cell.lock same).symm.trans failure.written)
      rw [← Option.some.inj (Prod.mk.inj written).2]
      simp only [Update.values, Update.exceeded, below, decide_false, Bool.false_eq_true, if_false, retry]

end FailedPublish

/-- The message is kept back for its delay after the failure if and only if the
failure has not come later after the last reading of the clock than the jitter
lengthens the delay; without jitter, if it has not come after it at all. -/
theorem backoff_iff (failure : FailedPublish deployment) :
    Exists fun now => Exists fun factor =>
      last_reading (failure.marking.shared.own failure.worker) = some now ∧ Drawn failure.settings factor ∧
        failure.retry_at = some (now + failure.delay * factor) ∧
        (failure.Deferred <-> failure.time - now ≤ failure.delay * (factor - 1)) := by
  rcases failure.draft_eq with ⟨retry_time, retry, limit, admitted, draft⟩
  rcases (retry_asked failure.reached_marking failure.asks _ _ _ _ rfl).2 with ⟨now, read, delayed⟩
  rcases delayed failure.row failure.owns retry_time retry with ⟨factor, drawn, counted⟩
  refine ⟨now, factor, read, drawn, counted ▸ retry, ?_⟩
  have due_at : failure.draft.next_retry_at = some (now + failure.delay * factor) := by
    rw [draft, counted]
    rfl
  constructor
  · intro deferred
    have kept := (outbox_verified deployment).invariant failure.reached_marking
    have unprocessed : failure.row.processed_at = none := by
      have represented := kept.rows.represented _ _ (Cell.carries_of_visible failure.owns.seen)
      rw [← Option.not_isSome_iff_eq_none, represented.processed_at, failure.owns.status]
      exact fun impossible => by cases impossible
    have eligible : Eligible (failure.committed.shared.tables .outbox_messages) (now + failure.delay * factor)
        failure.limit failure.row.id failure.draft := by
      refine ⟨failure.installed, ?_, ?_, ?_, .inr ⟨_, due_at, le_refl _⟩⟩
      · rw [draft]
      · rw [draft]
        exact unprocessed
      · rw [draft, limit]
        exact failure.retried
    have deferred := deferred failure.committed .refl _ failure.limit admitted eligible
    linarith
  · intro early later _ due max_attempts _ eligible
    rcases eligible.due with never | ⟨time, retry_at, reached⟩
    · rw [due_at] at never
      cases never
    · rw [due_at] at retry_at
      cases retry_at
      linarith

/-! ## A message claimed again before its delay is over -/

/-- Run 0 creates a payment with the outbox message 2 at the time 10, and
worker 1 claims this message.  Its publish takes until 15. -/
def until_failure : List (service five_attempts).Action :=
  [.env (.tick 10), .start 0 (.create ten_dollars), .perform 0 (.calm 10 0), .perform 0 (.calm 10 1),
    .perform 0 (.calm 10 0), .perform 0 (.calm 10 2), .perform 0 (.calm 10 0), .perform 0 (.calm 10 0),
    .perform 0 (.calm 10 0), .start 1 (.outbox {} 1), .perform 1 (.calm 10 0), .perform 1 (.calm 10 0),
    .perform 1 (.calm 10 0), .perform 1 (.calm 10 0), .perform 1 (.calm 10 0), .perform 1 (.calm 10 0),
    .perform 1 (.calm 10 0), .env (.start_publish 1 0), .env (.tick 15)]

/-- Worker 3 begins a cycle at the time of the failure. -/
def second_claim : List (service five_attempts).Action :=
  [.start 3 (.outbox {} 1), .perform 3 (.calm 15 0), .perform 3 (.calm 15 0), .perform 3 (.calm 15 0),
    .perform 3 (.calm 15 0)]

def slow_row : OutboxMessageModel :=
  { OutboxMessageModel.of_event 2 (.PaymentCreated 1 10 none "10" "USD" none .null "https://merchant" "key" 10) with
    attempts := 1
    status := .PROCESSING
    claimed_at := some 10
    claimed_by := some 1 }

/-- One second after the claim, and four seconds before the failure. -/
def retried_row : OutboxMessageModel :=
  { slow_row with status := .PENDING, claimed_at := none, claimed_by := none, next_retry_at := some 11 }

def asked_by (run : RunId) (state : (service deployment).State) : Option (Settings × Nat × Op) :=
  match state.phase run with
  | .running (.outbox settings cycles) (.call op _) => some (settings, cycles, op)
  | _ => none

theorem asked_by_eq_some {run : RunId} {state : (service deployment).State} {settings : Settings} {cycles : Nat} {op : Op}
    (asked : asked_by run state = some (settings, cycles, op)) :
    Exists fun next => state.phase run = .running (.outbox settings cycles) (.call op next) := by
  unfold asked_by at asked
  split at asked
  · cases asked
    exact ⟨_, ‹_›⟩
  · cases asked

/-- The publish fails at 15 as the first attempt, so its delay of one second
ends at 16; another worker claims the message with a reading of 15. -/
theorem claimed_before_its_delay :
    Exists fun failure : FailedPublish five_attempts => Exists fun later => Exists fun row =>
      failure.time = 15 ∧ failure.delay = 1 ∧ ¬ failure.Deferred ∧
        Machine.Path (fun _ _ => True) failure.committed later ∧
        (later.shared.cell .outbox_messages failure.row.id).lock = some (3, some row) ∧
        row.claimed_at = some 15 ∧ row.attempts = 2 := by
  have ran : (do
      let failing ← Machine.runFrom (Machine.fresh World.initial) until_failure
      let failed ← Machine.step failing (.env (.finish_publish 1 0 false))
      let marking ← Machine.step failed (.perform 1 (.calm 15 0))
      let marked ← Machine.step marking (.perform 1 (.calm 15 0))
      let committed ← Machine.step marked (.perform 1 (.calm 15 0))
      let later ← Machine.runFrom committed second_claim
      return (failing.shared.clock, ((failing.shared.publishing 1).tasks[0]?).map PublishTask.message,
        asked_by 1 marking, (marking.shared.cell .outbox_messages 2).visible 1,
        (marked.shared.cell .outbox_messages 2).lock, marked.pending 1, committed.shared.cell .outbox_messages 2,
        (later.shared.cell .outbox_messages 2).lock) : Option _) =
      some (15, some slow_row.to_domain,
        some ({}, 1, Op.update .outbox_messages (.mark_publish_failure 2 1 5 (some 11))), some slow_row,
        some (1, some retried_row), some Op.commit, Cell.mk (some retried_row) none,
        some (3, some { retried_row with
          attempts := 2, status := .PROCESSING, claimed_at := some 15, claimed_by := some 3 })) := by
    with_unfolding_all rfl
  rcases Option.bind_eq_some_iff.mp ran with ⟨failing, until_failing, ran⟩
  rcases Option.bind_eq_some_iff.mp ran with ⟨failed, fails, ran⟩
  rcases Option.bind_eq_some_iff.mp ran with ⟨marking, results, ran⟩
  rcases Option.bind_eq_some_iff.mp ran with ⟨marked, marks, ran⟩
  rcases Option.bind_eq_some_iff.mp ran with ⟨committed, commits, ran⟩
  rcases Option.bind_eq_some_iff.mp ran with ⟨later, claims, ran⟩
  simp only [Option.pure_def, Option.some.injEq, Prod.mk.injEq] at ran
  rcases ran with ⟨clock, message, asked, seen, written, pending, installed, locked⟩
  rcases asked_by_eq_some asked with ⟨next, asks⟩
  have publishes : Machine.Path (fun _ _ => True) failed marking := .step (.perform 1 (.calm 15 0)) .refl results trivial
  have claiming : Machine.Path (fun _ _ => True) committed later := Machine.Path.of_runFrom _ claims
  let failure : FailedPublish five_attempts :=
    { worker := 1, settings := {}, cycles := 1, index := 0, row := slow_row, draft := retried_row, worker_id := 1,
      limit := 5, retry_at := some 11, next := next, choice := .calm 15 0, choice' := .calm 15 0, failing := failing,
      failed := failed, marking := marking, marked := marked, committing := marked, committed := committed,
      reached := Machine.Path.of_runFrom _ until_failing
      fails := fails
      message := message
      publishes := publishes
      asks := asks
      owns := ⟨seen, rfl, rfl⟩
      marks := marks
      written := written
      retried := by decide
      finishes := .refl
      commit := pending
      commits := commits
      installed := installed }
  have time : failure.time = 15 := clock
  have delay : failure.delay = 1 := by
    change OutboxWorker.retry_delay {} 1 = 1
    decide +kernel
  refine ⟨failure, later, _, time, delay, fun deferred => ?_, claiming, locked, rfl, rfl⟩
  have eligible : Eligible (committed.shared.tables .outbox_messages) 15 5 2 retried_row :=
    ⟨installed, rfl, rfl, by decide, .inr ⟨11, rfl, by decide +kernel⟩⟩
  have late := deferred committed .refl 15 5 ⟨{}, rfl, rfl⟩ eligible
  rw [time, delay] at late
  exact absurd late (by decide +kernel)

end Properties
end Payments
