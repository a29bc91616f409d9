import Mathlib.Data.List.Forall2
import Payments.Infrastructure.Migrations
import Payments.Properties.OutboxRows

namespace Payments
namespace Properties

open Domain Infrastructure

/-!
# Legacy rows of the outbox

The upgrades add the status of a row without looking at `processed_at`.  A row
that had not been published fits the later operations, and a delivered one
fits none of them.
-/

/-- The columns of revision `0002_payments` of a row. -/
def legacy_columns (row : OutboxMessageModel) : OutboxMessages0002 where
  id := row.id
  event_type := row.event_type
  aggregate_id := row.aggregate_id
  payload := row.payload
  correlation_id := row.correlation_id
  attempts := row.attempts
  created_at := row.created_at
  processed_at := row.processed_at

/-- The invariant of the rows that the repository operations maintain. -/
structure RowInvariant (row : OutboxMessageModel) : Prop where
  processed_at : row.processed_at.isSome = true <-> row.status = .PROCESSED
  finished_at : row.finished_at.isSome = true <-> settled row

/-- The upgraded row means what the legacy row meant. -/
structure Preserved (legacy : OutboxMessages0002) (row : OutboxMessageModel) : Prop where
  columns : legacy_columns row = legacy
  delivered : legacy.processed_at.isSome = true -> row.status = .PROCESSED ∧
    (Exists fun finished_at => row.finished_at = some finished_at ∧
      forall cutoff, finished_at < cutoff -> purgeable cutoff row = true) ∧
    forall max_attempts, (Update.reap_exhausted max_attempts).condition row = false
  waiting : legacy.processed_at = none ->
    row.status = .PENDING ∧ row.claimed_at = none ∧ row.claimed_by = none
  invariant : RowInvariant row

theorem preserved_iff (legacy : OutboxMessages0002) :
    Preserved legacy (upgraded legacy) <-> legacy.processed_at = none := by
  constructor
  · intro preserved
    cases published : legacy.processed_at with
    | none => rfl
    | some time =>
        have processed := (preserved.delivered (Option.isSome_iff_exists.mpr ⟨time, published⟩)).1
        cases processed
  · intro waiting
    refine ⟨rfl, ?_, fun _ => ⟨rfl, rfl, rfl⟩, ?_, ?_⟩
    · rw [waiting]
      intro impossible
      cases impossible
    · refine iff_of_false ?_ (fun impossible => nomatch impossible)
      rw [upgraded, waiting]
      exact Bool.false_ne_true
    · refine iff_of_false Bool.false_ne_true ?_
      rintro (impossible | impossible) <;> cases impossible

/-- A delivered row is stuck: no claim and no purge selects it, and the only
update that does is the reaping, which counts it among the dead. -/
theorem delivered_row_stuck {legacy : OutboxMessages0002} {time : Datetime}
    (published : legacy.processed_at = some time) :
    (forall now max_attempts, (Query.claimable_messages now max_attempts).condition (upgraded legacy) = false) ∧
    (forall cutoff, purgeable cutoff (upgraded legacy) = false) ∧
    forall statement : Update .outbox_messages, (forall now worker_id, statement ≠ .claim now worker_id) ->
      statement.condition (upgraded legacy) = true ->
      Exists fun max_attempts : Int => statement = .reap_exhausted max_attempts ∧
        max_attempts ≤ legacy.attempts ∧ forall now, ¬ RowInvariant (statement.values now (upgraded legacy)) := by
  refine ⟨?_, fun cutoff => rfl, ?_⟩
  · intro now max_attempts
    simp [Query.condition, upgraded, published]
  · intro statement not_claim selected
    cases statement with
    | claim now worker_id => exact absurd rfl (not_claim now worker_id)
    | reap_exhausted max_attempts =>
        simp only [Update.condition, Update.exceeded, Bool.and_eq_true, decide_eq_true_eq] at selected
        refine ⟨max_attempts, rfl, selected.2, fun now invariant => ?_⟩
        have processed := invariant.processed_at.mp (Option.isSome_iff_exists.mpr ⟨time, published⟩)
        cases processed
    | _ => simp [Update.condition, Update.expired, Update.owned, upgraded] at selected

/-- The upgrades preserve the meaning of every row exactly when no row had been
delivered. -/
theorem upgrade_preserves_iff (table : List OutboxMessages0002) :
    List.Forall₂ Preserved table (upgrade_head table) <->
      forall row, row ∈ table -> row.processed_at = none := by
  rw [upgrade_head_eq, List.forall₂_map_right_iff, List.forall₂_same]
  exact forall₂_congr (fun row _ => preserved_iff row)

/-- A message that was published before the upgrade. -/
def delivered_message : OutboxMessages0002 where
  id := 1
  event_type := "PaymentProcessingStarted"
  aggregate_id := 2
  payload := .PaymentProcessingStarted 2 5 none
  correlation_id := none
  attempts := 0
  created_at := 5
  processed_at := some 6

/-- The delivered message is pending again. -/
theorem delivered_message_pending :
    ¬ List.Forall₂ Preserved [delivered_message] (upgrade_head [delivered_message]) := by
  intro preserved
  rcases preserved with _ | ⟨first, _⟩
  have processed := (first.delivered rfl).1
  cases processed

end Properties
end Payments
