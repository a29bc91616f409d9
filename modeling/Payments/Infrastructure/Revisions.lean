import Payments.Infrastructure.Migrations
import Payments.Schemas.Reversals

namespace Payments
namespace Infrastructure

open Schemas

/-!
# The revisions of the database

The statements of each revision, up and down, in their order.  Revision 0 here
is `0001_baseline`, which has no table.
-/

abbrev sa_column (name type : String) (nullable : Bool) : Column := ⟨name, type, nullable, none⟩

abbrev sa_index (name table : String) (columns : List String) (unique : Bool) : Index :=
  ⟨name, table, columns, unique, none⟩

/-! ## `0002_payments` -/

def payments_table : TableDefinition where
  name := "payments"
  columns := [sa_column "id" "Uuid" false, sa_column "idempotency_key" "String(255)" false,
    sa_column "amount" "Numeric(18, 2)" false, sa_column "currency" "String(3)" false,
    sa_column "description" "Text" true, sa_column "metadata" "JSONB" false, sa_column "status" "String(16)" false,
    sa_column "webhook_url" "Text" false, sa_column "correlation_id" "String(64)" true,
    sa_column "created_at" "DateTime(timezone)" false, sa_column "processed_at" "DateTime(timezone)" true,
    sa_column "version" "Integer" false]
  constraints := [.check "ck_payments_amount_positive" "amount > 0",
    .check "ck_payments_currency" "currency IN ('RUB', 'USD', 'EUR')",
    .check "ck_payments_status" "status IN ('pending', 'processing', 'succeeded', 'failed')",
    .check "ck_payments_webhook_url" "webhook_url ~ '^https?://'", .primary_key "id"]

def payment_attempts_table : TableDefinition where
  name := "payment_attempts"
  columns := [sa_column "id" "Uuid" false, sa_column "payment_id" "Uuid" false,
    sa_column "attempt_number" "Integer" false, sa_column "status" "String(16)" false, sa_column "error" "Text" true,
    sa_column "gateway_response" "JSONB" true, sa_column "correlation_id" "String(64)" true,
    sa_column "created_at" "DateTime(timezone)" false, sa_column "updated_at" "DateTime(timezone)" false]
  constraints := [.check "ck_attempts_number" "attempt_number > 0",
    .check "ck_attempts_status" "status IN ('created', 'processing', 'succeeded', 'failed')",
    .foreign_key "payment_id" "payments" "id" "CASCADE", .primary_key "id"]

def outbox_messages_table : TableDefinition where
  name := "outbox_messages"
  columns := [sa_column "id" "Uuid" false, sa_column "event_type" "String(64)" false,
    sa_column "aggregate_id" "Uuid" false, sa_column "payload" "JSONB" false,
    sa_column "correlation_id" "String(64)" true, sa_column "attempts" "Integer" false,
    sa_column "created_at" "DateTime(timezone)" false, sa_column "processed_at" "DateTime(timezone)" true]
  constraints := [.primary_key "id"]

def webhook_deliveries_table : TableDefinition where
  name := "webhook_deliveries"
  columns := [sa_column "id" "Uuid" false, sa_column "payment_id" "Uuid" false,
    sa_column "event_type" "String(64)" false, sa_column "attempt" "Integer" false,
    sa_column "status" "String(16)" false, sa_column "response_code" "Integer" true,
    sa_column "response_body" "Text" true, sa_column "next_retry_at" "DateTime(timezone)" true,
    sa_column "correlation_id" "String(64)" true, sa_column "created_at" "DateTime(timezone)" false,
    sa_column "updated_at" "DateTime(timezone)" false]
  constraints := [.check "ck_webhook_deliveries_status" "status IN ('pending', 'success', 'failed')",
    .foreign_key "payment_id" "payments" "id" "CASCADE", .primary_key "id"]

def ix_outbox_processed_created : Index :=
  sa_index "ix_outbox_processed_created" "outbox_messages" ["processed_at", "created_at"] false

def payments_0002 : Migration where
  upgrade := [.create_table payments_table,
    .create_index (sa_index "ix_payments_status" "payments" ["status"] false),
    .create_index (sa_index "ix_payments_created_at" "payments" ["created_at"] false),
    .create_index (sa_index "ix_payments_idempotency_key" "payments" ["idempotency_key"] true),
    .create_table payment_attempts_table,
    .create_index (sa_index "ix_attempts_payment_id_number" "payment_attempts" ["payment_id", "attempt_number"] false),
    .create_table outbox_messages_table,
    .create_index ix_outbox_processed_created,
    .create_table webhook_deliveries_table,
    .create_index (sa_index "ix_webhook_deliveries_payment_event" "webhook_deliveries" ["payment_id", "event_type"] false),
    .create_index (sa_index "ix_webhook_deliveries_next_retry_at" "webhook_deliveries" ["next_retry_at"] false)]
  downgrade := [.drop_index "ix_webhook_deliveries_next_retry_at" "webhook_deliveries",
    .drop_index "ix_webhook_deliveries_payment_event" "webhook_deliveries",
    .drop_table "webhook_deliveries",
    .drop_index "ix_outbox_processed_created" "outbox_messages",
    .drop_table "outbox_messages",
    .drop_index "ix_attempts_payment_id_number" "payment_attempts",
    .drop_table "payment_attempts",
    .drop_index "ix_payments_idempotency_key" "payments",
    .drop_index "ix_payments_status" "payments",
    .drop_index "ix_payments_created_at" "payments",
    .drop_table "payments"]

/-! ## `0003_outbox_retry` -/

def status_column : Column := ⟨"status", "String(16)", false, some "pending"⟩

def next_retry_at_column : Column := sa_column "next_retry_at" "DateTime(timezone)" true

def ix_outbox_claim : Index :=
  sa_index "ix_outbox_claim" "outbox_messages" ["status", "next_retry_at", "created_at"] false

def outbox_retry_0003 : Migration where
  upgrade := [.add_column "outbox_messages" status_column, .add_column "outbox_messages" next_retry_at_column,
    .drop_index "ix_outbox_processed_created" "outbox_messages", .create_index ix_outbox_claim]
  downgrade := [.drop_index "ix_outbox_claim" "outbox_messages", .create_index ix_outbox_processed_created,
    .drop_column "outbox_messages" "next_retry_at", .drop_column "outbox_messages" "status"]

/-! ## `0004_outbox_claim` -/

def claimed_at_column : Column := sa_column "claimed_at" "DateTime(timezone)" true

def claimed_by_column : Column := sa_column "claimed_by" "Uuid" true

def outbox_claim_0004 : Migration where
  upgrade := [.add_column "outbox_messages" claimed_at_column, .add_column "outbox_messages" claimed_by_column,
    .drop_index "ix_outbox_claim" "outbox_messages",
    .create_index (sa_index "idx_outbox_claim" "outbox_messages" ["status", "next_retry_at", "claimed_at"] false)]
  downgrade := [.drop_index "idx_outbox_claim" "outbox_messages", .create_index ix_outbox_claim,
    .drop_column "outbox_messages" "claimed_by", .drop_column "outbox_messages" "claimed_at"]

/-! ## `0005_outbox_finished` -/

def finished_at_column : Column := sa_column "finished_at" "DateTime(timezone)" true

def outbox_finished_0005 : Migration where
  upgrade := [.add_column "outbox_messages" finished_at_column,
    .create_index ⟨"idx_outbox_claim_expiry", "outbox_messages", ["claimed_at"], false,
      some ⟨"status", ["processing"]⟩⟩,
    .create_index ⟨"idx_outbox_finished_at", "outbox_messages", ["finished_at"], false,
      some ⟨"status", ["processed", "dead"]⟩⟩]
  downgrade := [.drop_index "idx_outbox_finished_at" "outbox_messages",
    .drop_index "idx_outbox_claim_expiry" "outbox_messages", .drop_column "outbox_messages" "finished_at"]

/-! ## The chain -/

/-- The migration from a revision to the next one. -/
def migration : Nat -> Migration
  | 0 => payments_0002
  | 1 => outbox_retry_0003
  | 2 => outbox_claim_0004
  | 3 => outbox_finished_0005
  | _ => ⟨[], []⟩

def schema_at : Nat -> Schema
  | 0 => Schema.empty
  | revision + 1 => (evolve (migration revision).upgrade (schema_at revision)).getD Schema.empty

theorem reversible {revision : Nat} (below : revision < 4) :
    (migration revision).Reversible (schema_at revision) (schema_at (revision + 1)) := by
  have cases : revision = 0 ∨ revision = 1 ∨ revision = 2 ∨ revision = 3 := by omega
  rcases cases with rfl | rfl | rfl | rfl
  · exact ⟨by decide +kernel, by decide +kernel, by decide +kernel⟩
  · exact ⟨by decide +kernel, by decide +kernel, by decide +kernel⟩
  · exact ⟨by decide +kernel, by decide +kernel, by decide +kernel⟩
  · exact ⟨by decide +kernel, by decide +kernel, by decide +kernel⟩

/-- The revisions `0001_baseline` to `0005_outbox_finished`. -/
def revisions {Value : Type} (literal : String -> Value) : Chain (Database Value) :=
  migration_chain literal 4 migration schema_at (fun _ => reversible)

end Infrastructure
end Payments
