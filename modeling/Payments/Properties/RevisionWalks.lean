import Payments.Infrastructure.Revisions

namespace Payments
namespace Properties

open Domain Infrastructure Schemas

/-!
# Walks over the revisions of the database

However often the database is upgraded and downgraded, no statement is refused
and the schema is that of the revision.  What becomes of the rows depends only
on the lowest revision on the way: columns above it begin anew with their
defaults, and everything else is as it was.
-/

variable {Value : Type} {literal : String -> Value} {database next : Database Value} {revision bottom steps : Nat}

def outbox : String := "outbox_messages"

/-- The columns that the migration after a revision adds to the outbox. -/
def added_columns : Nat -> List Column
  | 1 => [status_column, next_retry_at_column]
  | 2 => [claimed_at_column, claimed_by_column]
  | 3 => [finished_at_column]
  | _ => []

/-- The cells that an upgrade between two revisions gives every outbox row. -/
def new_cells (literal : String -> Value) (bottom steps : Nat) : Schemas.Row Value :=
  (List.range' bottom steps).flatMap (fun revision => (added_columns revision).map (default_cell literal))

/-- The columns of the outbox at a revision. -/
def outbox_names (revision : Nat) : List String :=
  ((schema_at revision).find outbox).elim [] TableDefinition.column_names

def cut (names : List String) (row : Schemas.Row Value) : Schemas.Row Value :=
  row.filter (fun cell => decide (cell.1 ∈ names))

/-! ## One migration of the outbox -/

theorem outbox_upgraded (above : 0 < revision) (below : revision < 4) (rows : Rows Value) :
    carry_all literal (migration revision).upgrade rows =
      Function.update rows outbox ((rows outbox).map (fun row =>
        row ++ (added_columns revision).map (default_cell literal))) := by
  have cases : revision = 1 ∨ revision = 2 ∨ revision = 3 := by omega
  rcases cases with rfl | rfl | rfl <;>
    simp [migration, outbox_retry_0003, outbox_claim_0004, outbox_finished_0005, carry_all, Statement.carry, outbox,
      added_columns, Function.comp_def]

theorem outbox_downgraded (above : 0 < revision) (below : revision < 4) (rows : Rows Value) :
    carry_all literal (migration revision).downgrade rows =
      Function.update rows outbox ((rows outbox).map (fun row =>
        row.filter (fun cell => decide (cell.1 ∉ (added_columns revision).map Column.name)))) := by
  have cases : revision = 1 ∨ revision = 2 ∨ revision = 3 := by omega
  rcases cases with rfl | rfl | rfl <;>
    simp [migration, outbox_retry_0003, outbox_claim_0004, outbox_finished_0005, carry_all, Statement.carry, outbox,
      added_columns, Function.comp_def, status_column, next_retry_at_column, claimed_at_column, claimed_by_column,
      finished_at_column]

/-! ## Going down and up -/

/-- A row of a sound database has the columns of its revision. -/
theorem cut_all (sound : Sound database) (same : database.schema = schema_at revision) {row : Schemas.Row Value}
    (listed : row ∈ database.rows outbox) : cut (outbox_names revision) row = row := by
  rcases sound.rows outbox row listed with ⟨table, found, fits⟩
  rw [same] at found
  refine List.filter_eq_self.mpr (fun cell member => decide_eq_true ?_)
  have named : cell.1 ∈ table.columns.map Column.name := fits_names fits ▸ List.mem_map_of_mem member
  rw [outbox_names, found]
  exact named

/-- A migration does not add a column that a lower revision has. -/
theorem names_disjoint (above : 0 < bottom) (below : bottom + steps < 4) :
    forall name, name ∈ outbox_names bottom -> name ∉ (added_columns (bottom + steps)).map Column.name := by
  have cases : (bottom = 1 ∧ (steps = 0 ∨ steps = 1 ∨ steps = 2)) ∨ (bottom = 2 ∧ (steps = 0 ∨ steps = 1)) ∨
      (bottom = 3 ∧ steps = 0) := by omega
  rcases cases with ⟨rfl, rfl | rfl | rfl⟩ | ⟨rfl, rfl | rfl⟩ | ⟨rfl, rfl⟩ <;> decide +kernel

theorem outbox_descended {foot : Database Value} (known : (revisions literal).valid (bottom + steps) database)
    (above : 0 < bottom) (inside : bottom + steps ≤ 4)
    (descended : (revisions literal).descend bottom steps database = some foot) :
    foot.rows = Function.update database.rows outbox ((database.rows outbox).map (cut (outbox_names bottom))) := by
  induction steps generalizing database with
  | zero =>
      cases descended
      have whole : (foot.rows outbox).map (cut (outbox_names bottom)) = foot.rows outbox :=
        (List.map_congr_left (fun row listed => cut_all known.2 known.1 listed)).trans (List.map_id _)
      rw [whole, Function.update_eq_self]
  | succ steps inductionHypothesis =>
      rcases Option.bind_eq_some_iff.mp descended with ⟨middle, downgraded, descended⟩
      rcases (revisions literal).downgrades inside known with ⟨_, downgraded', valid⟩
      cases downgraded.symm.trans downgraded'
      have rows := inductionHypothesis valid (by omega) descended
      have carried : middle.rows = carry_all literal (migration (bottom + steps)).downgrade database.rows := by
        have downgraded : migrate literal (migration (bottom + steps)).downgrade database = some middle := downgraded
        rw [migrate_eq] at downgraded
        rcases Option.map_eq_some_iff.mp downgraded with ⟨_, _, rfl⟩
        rfl
      rw [outbox_downgraded (by omega) (by omega)] at carried
      rw [rows, carried, Function.update_self, Function.update_idem, List.map_map]
      congr 2
      funext row
      rw [Function.comp_apply, cut, cut, List.filter_filter]
      congr 1
      funext cell
      by_cases member : cell.1 ∈ outbox_names bottom
      · have apart : cell.1 ∉ (added_columns (bottom + steps)).map Column.name :=
          names_disjoint above (by omega) cell.1 member
        simp only [member, apart, not_false_eq_true, decide_true, Bool.and_self]
      · simp only [member, decide_false, Bool.false_and]

theorem new_cells_succ : new_cells literal bottom (steps + 1) =
    new_cells literal bottom steps ++ (added_columns (bottom + steps)).map (default_cell literal) := by
  rw [new_cells, List.range'_concat, List.flatMap_append, Nat.one_mul]
  simp only [List.flatMap_cons, List.flatMap_nil, List.append_nil]
  rfl

theorem outbox_climbed {last : Database Value} (above : 0 < bottom) (inside : bottom + steps ≤ 4)
    (climbed : (revisions literal).climb bottom database steps = some last) :
    last.rows = Function.update database.rows outbox
      ((database.rows outbox).map (fun row => row ++ new_cells literal bottom steps)) := by
  induction steps generalizing last with
  | zero =>
      cases climbed
      have whole : (database.rows outbox).map (fun row => row ++ new_cells literal bottom 0) = database.rows outbox :=
        (List.map_congr_left (fun row _ => List.append_nil row)).trans (List.map_id _)
      rw [whole, Function.update_eq_self]
  | succ steps inductionHypothesis =>
      rcases Option.bind_eq_some_iff.mp climbed with ⟨middle, climbed, upgraded⟩
      have rows := inductionHypothesis (by omega) climbed
      have carried : last.rows = carry_all literal (migration (bottom + steps)).upgrade middle.rows := by
        have upgraded : migrate literal (migration (bottom + steps)).upgrade middle = some last := upgraded
        rw [migrate_eq] at upgraded
        rcases Option.map_eq_some_iff.mp upgraded with ⟨_, _, rfl⟩
        rfl
      rw [outbox_upgraded (by omega) (by omega)] at carried
      rw [carried, rows, Function.update_self, Function.update_idem, List.map_map]
      congr 2
      funext row
      rw [Function.comp_apply, new_cells_succ, List.append_assoc]

/-! ## The rows of the models -/

/-- The values of the outbox columns. -/
inductive StoredValue where
  | uuid (value : UUID)
  | text (value : String)
  | integer (value : Nat)
  | time (value : Datetime)
  | event (value : DomainEvent)

def status_text : OutboxStatus -> String
  | .PENDING => "pending"
  | .PROCESSING => "processing"
  | .PROCESSED => "processed"
  | .DEAD => "dead"

def stored_0002 (row : OutboxMessages0002) : Schemas.Row StoredValue :=
  [("id", some (.uuid row.id)), ("event_type", some (.text row.event_type)),
    ("aggregate_id", some (.uuid row.aggregate_id)), ("payload", some (.event row.payload)),
    ("correlation_id", row.correlation_id.map .text), ("attempts", some (.integer row.attempts)),
    ("created_at", some (.time row.created_at)), ("processed_at", row.processed_at.map .time)]

def stored (row : OutboxMessageModel) : Schemas.Row StoredValue :=
  [("id", some (.uuid row.id)), ("event_type", some (.text row.event_type)),
    ("aggregate_id", some (.uuid row.aggregate_id)), ("payload", some (.event row.payload)),
    ("correlation_id", row.correlation_id.map .text), ("attempts", some (.integer row.attempts)),
    ("created_at", some (.time row.created_at)), ("processed_at", row.processed_at.map .time),
    ("status", some (.text (status_text row.status))), ("next_retry_at", row.next_retry_at.map .time),
    ("claimed_at", row.claimed_at.map .time), ("claimed_by", row.claimed_by.map .uuid),
    ("finished_at", row.finished_at.map .time)]

/-- The statements give old rows the columns that the upgrade of the models gives them. -/
theorem upgrade_stored {database final : Database StoredValue} {table : List OutboxMessages0002}
    (rows : database.rows outbox = table.map stored_0002)
    (climbed : (revisions StoredValue.text).climb 1 database 3 = some final) :
    final.rows outbox = (upgrade_head table).map stored := by
  rw [outbox_climbed (by decide) (by decide) climbed, Function.update_self, rows]
  simp only [upgrade_head, upgrade_0005, upgrade_0004, upgrade_0003, List.map_map]
  rfl

/-! ## From the revision without tables -/

/-- No statement makes a row. -/
theorem carry_empty (statement : Statement) {rows : Rows Value} (empty : forall name, rows name = []) :
    forall name, statement.carry literal rows name = [] := by
  have replaced : forall (table name : String) (change : Schemas.Row Value -> Schemas.Row Value),
      Function.update rows table ((rows table).map change) name = [] := by
    intro table name change
    by_cases same : name = table
    · rw [same, Function.update_self, empty]
      rfl
    · rw [Function.update_of_ne same, empty]
  have cleared : forall table name : String, Function.update rows table [] name = [] := by
    intro table name
    have same := replaced table name id
    rwa [empty] at same
  cases statement with
  | create_table new => exact cleared new.name
  | drop_table table => exact cleared table
  | add_column table column => exact fun name => replaced table name _
  | drop_column table column => exact fun name => replaced table name _
  | create_index new => exact empty
  | drop_index name table => exact empty

theorem carry_all_empty (statements : List Statement) {rows : Rows Value} (empty : forall name, rows name = []) :
    forall name, carry_all literal statements rows name = [] := by
  induction statements generalizing rows with
  | nil => exact empty
  | cons statement rest inductionHypothesis => exact inductionHypothesis (carry_empty statement empty)

theorem empty_climbed {last : Database Value} (empty : forall name, database.rows name = [])
    (climbed : (revisions literal).climb bottom database steps = some last) : forall name, last.rows name = [] := by
  induction steps generalizing last with
  | zero =>
      cases climbed
      exact empty
  | succ steps inductionHypothesis =>
      rcases Option.bind_eq_some_iff.mp climbed with ⟨middle, earlier, upgraded⟩
      have upgraded : migrate literal (migration (bottom + steps)).upgrade middle = some last := upgraded
      rw [migrate_eq] at upgraded
      rcases Option.map_eq_some_iff.mp upgraded with ⟨_, _, rfl⟩
      exact carry_all_empty _ (inductionHypothesis earlier)

/-- At the first revision there is no table, so there is no row. -/
theorem baseline_empty (known : (revisions literal).valid 0 database) : forall name, database.rows name = [] := by
  intro name
  refine List.eq_nil_iff_forall_not_mem.mpr (fun row listed => ?_)
  rcases known.2.rows name row listed with ⟨table, found, _⟩
  rw [known.1] at found
  cases found

/-! ## Every walk -/

theorem descend_valid (known : (revisions literal).valid (bottom + steps) database) (inside : bottom + steps ≤ 4)
    {foot : Database Value} (descended : (revisions literal).descend bottom steps database = some foot) :
    (revisions literal).valid bottom foot := by
  induction steps generalizing database with
  | zero =>
      cases descended
      exact known
  | succ steps inductionHypothesis =>
      rcases Option.bind_eq_some_iff.mp descended with ⟨middle, downgraded, descended⟩
      rcases (revisions literal).downgrades inside known with ⟨_, downgraded', valid⟩
      cases downgraded.symm.trans downgraded'
      exact inductionHypothesis valid (by omega) descended

/-- Every walk over the revisions succeeds and ends at the schema of its last
revision.  A walk that stays above the baseline leaves the tables but the outbox
as they were, and cuts every outbox row to the columns of its lowest revision
before it gives it the defaults of the later ones.  A walk to the baseline
leaves no row.  The way up from `0002_payments` gives the rows of the models the
columns that their own upgrade gives them. -/
theorem revisions_walked {moves : List Move} (same : database.schema = schema_at revision) (sound : Sound database)
    (inside : revision ≤ 4) (stays : Chain.stays 4 revision moves = true) : (Exists fun final =>
      (revisions literal).walk (revision, database) moves = some (Chain.arrives revision moves, final) ∧
        final.schema = schema_at (Chain.arrives revision moves) ∧ Sound final ∧
        (Chain.lowest revision moves = revision -> Chain.arrives revision moves = revision -> final = database) ∧
        (Chain.lowest revision moves = 0 -> forall name, final.rows name = []) ∧
        (0 < Chain.lowest revision moves -> final.rows = Function.update database.rows outbox
          ((database.rows outbox).map (fun row => cut (outbox_names (Chain.lowest revision moves)) row ++
            new_cells literal (Chain.lowest revision moves)
              (Chain.arrives revision moves - Chain.lowest revision moves))))) ∧
      forall (before after : Database StoredValue) (table : List OutboxMessages0002),
        before.rows outbox = table.map stored_0002 ->
        (revisions StoredValue.text).climb 1 before 3 = some after ->
        after.rows outbox = (upgrade_head table).map stored := by
  refine ⟨?_, fun before after table => upgrade_stored⟩
  have known : (revisions literal).valid revision database := ⟨same, sound⟩
  rcases Chain.walk_succeeds known inside stays with ⟨final, walked, top, valid⟩
  rcases Chain.walk_normal known inside walked with ⟨foot, descended, below, climbed⟩
  have lower := Chain.lowest_le revision moves
  have top : Chain.arrives revision moves ≤ 4 := top
  have start : Chain.lowest revision moves + (revision - Chain.lowest revision moves) = revision := by omega
  have finish : Chain.lowest revision moves + (Chain.arrives revision moves - Chain.lowest revision moves) ≤ 4 := by
    omega
  have standing := known
  rw [← start] at standing
  refine ⟨final, walked, valid.1, valid.2, fun above returned => ?_, fun baseline => ?_, fun above => ?_⟩
  · rw [returned] at walked
    exact Chain.walk_returns known inside walked above
  · have valid_foot := descend_valid standing (start.trans_le inside) descended
    rw [baseline] at valid_foot
    exact empty_climbed (baseline_empty valid_foot) climbed
  · rw [outbox_climbed above finish climbed, outbox_descended standing above (start.trans_le inside) descended,
      Function.update_self, Function.update_idem, List.map_map]
    rfl

/-- A published message at the last revision. -/
def published_row (status : String) (next_retry_at finished_at : Option String) : Schemas.Row String :=
  [("id", some "2"), ("event_type", some "PaymentCreated"), ("aggregate_id", some "1"), ("payload", some "null"),
    ("correlation_id", none), ("attempts", some "1"), ("created_at", some "10"), ("processed_at", some "20"),
    ("status", some status), ("next_retry_at", next_retry_at), ("claimed_at", none), ("claimed_by", none),
    ("finished_at", finished_at)]

def published_database : Database String where
  schema := schema_at 4
  rows := Function.update (fun _ => []) outbox [published_row "processed" none (some "20")]

/-- Down to `0002_payments` and up again, a published message is pending once more. -/
theorem published_message_reopened : Exists fun final =>
    (revisions id).walk (4, published_database) [.down, .down, .down, .up, .up, .up] = some (4, final) ∧
      final.rows outbox = [published_row "pending" none none] := by
  have sound : Sound published_database := by
    refine ⟨fun name row listed => ?_⟩
    have listed : row ∈ Function.update (fun _ => []) outbox [published_row "processed" none (some "20")] name := listed
    by_cases same : name = outbox
    · subst same
      rw [Function.update_self] at listed
      cases List.mem_singleton.mp listed
      have columns : published_database.schema.find outbox = some { outbox_messages_table with
          columns := outbox_messages_table.columns ++ [status_column, next_retry_at_column, claimed_at_column,
            claimed_by_column, finished_at_column] } := by decide +kernel
      exact ⟨_, columns, by decide +kernel⟩
    · rw [Function.update_of_ne same] at listed
      cases listed
  have same : published_database.schema = schema_at 4 := rfl
  rcases @revisions_walked String id published_database 4 [.down, .down, .down, .up, .up, .up] same sound (by decide)
    (by decide) with ⟨⟨final, walked, _, _, _, _, rows⟩, _⟩
  refine ⟨final, walked, ?_⟩
  rw [rows (by decide), Function.update_self]
  decide +kernel

end Properties
end Payments
