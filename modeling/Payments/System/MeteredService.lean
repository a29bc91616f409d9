import Payments.Infrastructure.Metrics
import Payments.System.Service

namespace Payments
namespace System

open Concurrency Domain Infrastructure Application

/-!
# The service with the counters of its outbox workers

The same runs over the same world, where every run has the two counters of dead
messages.  Only outbox workers count.
-/

def metered_program (deployment : Deployment) (run : RunId) : (job : Job) -> MeteredProgram job.Result
  | .create command => uncounted (program deployment run (.create command))
  | .process command => uncounted (program deployment run (.process command))
  | .get query => uncounted (program deployment run (.get query))
  | .deliver batch_size concurrency => uncounted (program deployment run (.deliver batch_size concurrency))
  | .outbox settings cycles => MeteredOutboxWorker.run settings run 0 cycles
  | .consume settings message => uncounted (program deployment run (.consume settings message))

/-- Without the counters it is the program of the job. -/
theorem unmetered_program (deployment : Deployment) (run : RunId) (job : Job) :
    (metered_program deployment run job).unmetered = program deployment run job := by
  cases job with
  | outbox settings cycles => exact MeteredOutboxWorker.unmetered_run settings run 0 cycles
  | create command => exact Prog.unmetered_metered _
  | process command => exact Prog.unmetered_metered _
  | get query => exact Prog.unmetered_metered _
  | deliver batch_size concurrency => exact Prog.unmetered_metered _
  | consume settings message => exact Prog.unmetered_metered _

@[reducible] def metered_service (deployment : Deployment) : Machine (signature.metered Metrics) :=
  (service deployment).metered Metrics (metered_program deployment)

instance (deployment : Deployment) : DecidableEq (metered_service deployment).Run :=
  inferInstanceAs (DecidableEq Nat)

/-- All counters are zero before anything has run. -/
def metered_initial : World × (RunId -> Metrics) := (World.initial, fun _ => .zero)

end System
end Payments
