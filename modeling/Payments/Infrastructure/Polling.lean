import Payments.Concurrency.Oracles
import Payments.Concurrency.Translation
import Payments.Infrastructure.Workers

namespace Payments
namespace Infrastructure

open Concurrency Domain Application Prog UnitOfWork

/-!
# The polling loop of the outbox worker

What the loop does itself is the count of its cycles, the choice of those with
a retention step, and the handling of exceptions.  It is written here over the
three calls that it awaits.  With the two transactions of the worker in the
place of the first two calls it is `OutboxWorker.run`.
-/

/-- What the polling loop awaits. -/
inductive PollingCall where
  | publish_batch
  | purge_processed
  | sleep (delay : Seconds)
  deriving DecidableEq

@[reducible] def polling : Signature :=
  ⟨PollingCall, fun _ => Unit, Error⟩

/-- How `asyncio.sleep` of Python 3.12 ends unless it is cancelled.  It never
does so for an infinite delay; a timer that is set to NaN fires at once. -/
def asyncio_sleep : Seconds -> Option (Except Error Unit)
  | .finite _ => some (.ok ())
  | .infinity negative => if negative then some (.ok ()) else none
  | .nan => some (.ok ())

namespace OutboxWorker

/-- `try: await call`, `except CancelledError: raise`, `except Exception: log`. -/
def guarded (call : PollingCall) : Prog polling Unit :=
  (@perform polling call).tryCatch (fun error =>
    match error with
    | .cancelled => .raise .cancelled
    | _ => return ())

/-- The next cycles of `while True`, after `done` earlier ones. -/
def loop (settings : Settings) (done : Nat) : Nat -> Prog polling Unit
  | 0 => return ()
  | cycles + 1 => do
      guarded .publish_batch
      if settings.OUTBOX_PURGE_INTERVAL = 0 then
        .raise .zeroDivision
      else
        if ((done + 1 : Nat) : Int) % settings.OUTBOX_PURGE_INTERVAL = 0 then
          guarded .purge_processed
        @perform polling (.sleep settings.OUTBOX_POLL_INTERVAL)
        loop settings (done + 1) cycles

/-- The programs of the worker in the place of the calls of the loop. -/
def awaited (settings : Settings) (worker_id : UUID) : PollingCall -> Program Unit
  | .publish_batch => publish_batch settings worker_id
  | .purge_processed => purge_processed settings
  | .sleep _ => return ()

theorem guarded_translated (settings : Settings) (worker_id : UUID) (call : PollingCall) :
    (guarded call).translate (awaited settings worker_id) = logged (awaited settings worker_id call) := by
  rw [guarded, translate_tryCatch, translate_perform, logged]
  congr 1
  funext error
  cases error <;> rfl

/-- The loop is the one that the worker runs. -/
theorem loop_translated (settings : Settings) (worker_id : UUID) (done cycles : Nat) :
    (loop settings done cycles).translate (awaited settings worker_id) = run settings worker_id done cycles := by
  induction cycles generalizing done with
  | zero => rfl
  | succ cycles inductionHypothesis =>
      rw [loop, run, translate_bind, guarded_translated]
      congr 1
      funext _
      split
      · rfl
      · split
        · rw [translate_bind, guarded_translated]
          congr 1
          funext _
          rw [translate_bind, translate_perform, inductionHypothesis]
          rfl
        · rw [translate_bind, translate_perform, inductionHypothesis]
          rfl

end OutboxWorker
end Infrastructure
end Payments
