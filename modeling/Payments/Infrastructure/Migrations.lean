import Payments.Infrastructure.Statements

namespace Payments
namespace Infrastructure

open Domain

/-!
# The revisions of the outbox table

Each revision of `outbox_messages` has the columns of the one before it and
some new ones.  `op.add_column` gives an existing row the server default of the
new column, and NULL where it has none.  An upgrade also changes indexes, which
no row can see.
-/

/-- The table at revision `0002_payments`. -/
structure OutboxMessages0002 where
  id : UUID
  event_type : String
  aggregate_id : UUID
  payload : DomainEvent
  correlation_id : Option String
  attempts : Nat
  created_at : Datetime
  processed_at : Option Datetime

/-- The table at revision `0003_outbox_retry`. -/
structure OutboxMessages0003 extends OutboxMessages0002 where
  status : OutboxStatus
  next_retry_at : Option Datetime

/-- The table at revision `0004_outbox_claim`. -/
structure OutboxMessages0004 extends OutboxMessages0003 where
  claimed_at : Option Datetime
  claimed_by : Option UUID

/-- The table at revision `0005_outbox_finished`. -/
structure OutboxMessages0005 extends OutboxMessages0004 where
  finished_at : Option Datetime

/-- `status` is added with `server_default='pending'`. -/
def upgrade_0003 (table : List OutboxMessages0002) : List OutboxMessages0003 :=
  table.map (fun row => { row with status := .PENDING, next_retry_at := none })

def upgrade_0004 (table : List OutboxMessages0003) : List OutboxMessages0004 :=
  table.map (fun row => { row with claimed_at := none, claimed_by := none })

def upgrade_0005 (table : List OutboxMessages0004) : List OutboxMessages0005 :=
  table.map (fun row => { row with finished_at := none })

/-- The row as the ORM model at the head revision loads it. -/
def OutboxMessages0005.model (row : OutboxMessages0005) : OutboxMessageModel where
  id := row.id
  event_type := row.event_type
  aggregate_id := row.aggregate_id
  payload := row.payload
  correlation_id := row.correlation_id
  attempts := row.attempts
  status := row.status
  created_at := row.created_at
  next_retry_at := row.next_retry_at
  claimed_at := row.claimed_at
  claimed_by := row.claimed_by
  processed_at := row.processed_at
  finished_at := row.finished_at

/-- `alembic upgrade head` from revision `0002_payments`. -/
def upgrade_head (table : List OutboxMessages0002) : List OutboxMessageModel :=
  (upgrade_0005 (upgrade_0004 (upgrade_0003 table))).map OutboxMessages0005.model

/-- What the upgrades make of one row. -/
def upgraded (row : OutboxMessages0002) : OutboxMessageModel where
  id := row.id
  event_type := row.event_type
  aggregate_id := row.aggregate_id
  payload := row.payload
  correlation_id := row.correlation_id
  attempts := row.attempts
  status := .PENDING
  created_at := row.created_at
  next_retry_at := none
  claimed_at := none
  claimed_by := none
  processed_at := row.processed_at
  finished_at := none

theorem upgrade_head_eq (table : List OutboxMessages0002) : upgrade_head table = table.map upgraded := by
  simp only [upgrade_head, upgrade_0005, upgrade_0004, upgrade_0003, List.map_map]
  rfl

end Infrastructure
end Payments
