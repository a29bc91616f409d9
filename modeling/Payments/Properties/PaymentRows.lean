import Payments.Infrastructure.Frames
import Payments.Infrastructure.Repositories

namespace Payments
namespace Properties

open Concurrency Domain Infrastructure Prog

/-!
# Payment rows and their transitions

The three transitions of a payment are one statement with parameters: it
changes the row that is still in the expected status and version, and its row
count says whether there was one.  A payment is created fresh and becomes
final after two transitions; what the client has ordered never changes.
-/

/-- Pending, never transitioned. -/
structure Fresh (row : PaymentModel) : Prop where
  status : row.status = .PENDING
  version : row.version = 0
  processed_at : row.processed_at = none

/-- Succeeded or failed, after two transitions. -/
structure Final (row : PaymentModel) : Prop where
  terminal : row.status.terminal = true
  version : row.version = 2
  processed_at : row.processed_at.isSome = true

/-- The row as it was created. -/
def origin (row : PaymentModel) : PaymentModel :=
  { row with status := .PENDING, version := 0, processed_at := none }

/-- A payment that is being charged. -/
def working (row : PaymentModel) : PaymentModel :=
  { row with status := .PROCESSING, version := 1 }

/-- A payment whose charge has ended. -/
def finished (row : PaymentModel) (target : PaymentStatus) (time : Datetime) : PaymentModel :=
  { row with status := target, version := 2, processed_at := some time }

variable {row : PaymentModel}

theorem Fresh.origin (fresh : Fresh row) : Properties.origin row = row := by
  rcases row with ⟨_, _, _, _, _, _, status, _, _, _, processed_at, version⟩
  rcases fresh with ⟨status, version, processed_at⟩
  cases status
  cases version
  cases processed_at
  rfl

theorem Fresh.not_final (fresh : Fresh row) : ¬ Final row := by
  intro final
  have version := final.version
  rw [fresh.version] at version
  cases version

theorem final_finished {target : PaymentStatus} (terminal : target.terminal = true) (time : Datetime) :
    Final (finished row target time) :=
  ⟨terminal, rfl, rfl⟩

@[simp] theorem origin_working : origin (working row) = origin row := rfl

@[simp] theorem origin_finished (target : PaymentStatus) (time : Datetime) :
    origin (finished row target time) = origin row :=
  rfl

@[simp] theorem origin_values (statement : Update .payments) (now : Datetime) :
    origin (statement.values now row) = origin row := by
  cases statement
  rfl

theorem idempotency_key_of_origin {other : PaymentModel} (same : origin other = origin row) :
    other.idempotency_key = row.idempotency_key := by
  have keys := congrArg PaymentModel.idempotency_key same
  exact keys

theorem begun (fresh : Fresh row) (id : UUID) (now : Datetime) :
    (Update.payment_transition id 0 .PENDING .PROCESSING none).values now row = working row := by
  rcases row with ⟨_, _, _, _, _, _, status, _, _, _, processed_at, version⟩
  rcases fresh with ⟨status, version, processed_at⟩
  cases status
  cases version
  cases processed_at
  rfl

theorem ended_as (id : UUID) (target : PaymentStatus) (now time : Datetime) :
    (Update.payment_transition id 1 .PROCESSING target (some time)).values now (working row) =
      finished row target time :=
  rfl

/-! ## The row count of a transition -/

variable {world after : World} {run : RunId} {id : UUID} {version : Nat} {status target : PaymentStatus}
  {processed_at : Option Datetime} {rows : List PaymentModel}

theorem transition_condition :
    (Update.payment_transition id version status target processed_at).condition row = true <->
      row.id = id ∧ row.status = status ∧ row.version = version := by
  simp [Update.condition, and_assoc]

theorem transition_named (row : PaymentModel)
    (selected : (Update.payment_transition id version status target processed_at).condition row = true) :
    @Row.id .payments row = id :=
  (transition_condition.mp selected).1

end Properties
end Payments
