import Mathlib.Data.Finset.Basic
import Mathlib.Data.List.Forall2
import Payments.Schemas.Walks

namespace Payments
namespace Schemas

/-!
# Tables, columns and indexes

A migration is a list of statements that define tables, columns and indexes.
A statement changes the schema, or is refused, and it carries the rows along:
a new column gets its default, and a dropped one takes its values with it.

Rows name their cells, so that carrying them does not depend on the schema.
That rows fit the schema is an invariant of every statement.
-/

structure Column where
  name : String
  type : String
  nullable : Bool
  server_default : Option String
  deriving DecidableEq, Repr

inductive Constraint where
  | primary_key (column : String)
  | foreign_key (column table target ondelete : String)
  | check (name condition : String)
  deriving DecidableEq, Repr

structure TableDefinition where
  name : String
  columns : List Column
  constraints : List Constraint
  deriving DecidableEq, Repr

/-- The condition of a partial index: the column has one of these values. -/
structure Predicate where
  column : String
  values : List String
  deriving DecidableEq, Repr

structure Index where
  name : String
  table : String
  columns : List String
  unique : Bool
  predicate : Option Predicate
  deriving DecidableEq, Repr

@[ext] structure Schema where
  tables : List TableDefinition
  indexes : Finset Index

-- A derived instance gets stuck on indexes that are listed in another order.
instance : DecidableEq Schema := fun first second =>
  decidable_of_iff (first.tables = second.tables ∧ first.indexes = second.indexes) Schema.ext_iff.symm

inductive Statement where
  | create_table (new : TableDefinition)
  | drop_table (name : String)
  | add_column (table : String) (column : Column)
  | drop_column (table name : String)
  | create_index (new : Index)
  | drop_index (name table : String)

namespace TableDefinition

def column_names (table : TableDefinition) : List String := table.columns.map Column.name

def references (table : TableDefinition) (name : String) : Bool :=
  table.constraints.any (fun constraint =>
    match constraint with
    | .foreign_key _ target _ _ => decide (target = name)
    | _ => false)

/-- Every table that a new one refers to. -/
def targets (table : TableDefinition) : List String :=
  table.constraints.filterMap (fun constraint =>
    match constraint with
    | .foreign_key _ target _ _ => some target
    | _ => none)

end TableDefinition

def Index.mentions (index : Index) (column : String) : Bool :=
  decide (column ∈ index.columns) || index.predicate.any (fun predicate => decide (predicate.column = column))

namespace Schema

def empty : Schema := ⟨[], ∅⟩

def find (schema : Schema) (name : String) : Option TableDefinition :=
  schema.tables.find? (fun table => decide (table.name = name))

def change_columns (name : String) (change : List Column -> List Column) (schema : Schema) : List TableDefinition :=
  schema.tables.map (fun table =>
    if table.name = name then { table with columns := change table.columns } else table)

end Schema

namespace Statement

/-- The schema after the statement, unless the database refuses it.  A column
that must have a value and has no default is refused, as it is for every table
with a row. -/
def apply : Statement -> Schema -> Option Schema
  | .create_table new, schema =>
      if (schema.find new.name).isNone ∧ new.column_names.Nodup ∧
          forall target, target ∈ new.targets -> (schema.find target).isSome then
        some { schema with tables := schema.tables ++ [new] }
      else none
  | .drop_table name, schema =>
      if (schema.find name).isSome ∧
          forall table, table ∈ schema.tables -> table.name ≠ name -> table.references name = false then
        some ⟨schema.tables.filter (fun table => decide (table.name ≠ name)),
          schema.indexes.filter (fun index => index.table ≠ name)⟩
      else none
  | .add_column name column, schema =>
      match schema.find name with
      | none => none
      | some table =>
          if column.name ∉ table.column_names ∧ (column.nullable || column.server_default.isSome) then
            some { schema with tables := schema.change_columns name (fun columns => columns ++ [column]) }
          else none
  | .drop_column name column, schema =>
      match schema.find name with
      | none => none
      | some table =>
          if column ∈ table.column_names then
            -- An index of the column goes with it.
            some ⟨schema.change_columns name (fun columns => columns.filter (fun other => decide (other.name ≠ column))),
              schema.indexes.filter (fun index => ¬ (index.table = name ∧ index.mentions column))⟩
          else none
  | .create_index new, schema =>
      match schema.find new.table with
      | none => none
      | some table =>
          if (forall column, column ∈ new.columns -> column ∈ table.column_names) ∧
              forall index, index ∈ schema.indexes -> index.name ≠ new.name then
            some { schema with indexes := insert new schema.indexes }
          else none
  | .drop_index name table, schema =>
      if Exists fun index => index ∈ schema.indexes ∧ index.name = name ∧ index.table = table then
        some { schema with indexes := schema.indexes.filter (fun index => ¬ (index.name = name ∧ index.table = table)) }
      else none

end Statement

def evolve : List Statement -> Schema -> Option Schema
  | [], schema => some schema
  | statement :: rest, schema => (statement.apply schema).bind (evolve rest)

/-! ## Rows -/

/-- The cells of a row under the names of their columns; `none` is NULL. -/
abbrev Row (Value : Type) : Type := List (String × Option Value)

/-- The rows of each table. -/
abbrev Rows (Value : Type) : Type := String -> List (Row Value)

structure Database (Value : Type) where
  schema : Schema
  rows : Rows Value

variable {Value : Type} (literal : String -> Value)

def default_cell (column : Column) : String × Option Value := (column.name, column.server_default.map literal)

def Statement.carry : Statement -> Rows Value -> Rows Value
  | .create_table new, rows => Function.update rows new.name []
  | .drop_table name, rows => Function.update rows name []
  | .add_column name column, rows =>
      Function.update rows name ((rows name).map (fun row => row ++ [default_cell literal column]))
  | .drop_column name column, rows =>
      Function.update rows name ((rows name).map (fun row => row.filter (fun cell => decide (cell.1 ≠ column))))
  | .create_index _, rows => rows
  | .drop_index _ _, rows => rows

def carry_all (statements : List Statement) (rows : Rows Value) : Rows Value :=
  statements.foldl (fun rows statement => statement.carry literal rows) rows

def Statement.execute (statement : Statement) (database : Database Value) : Option (Database Value) :=
  (statement.apply database.schema).map (fun schema => ⟨schema, statement.carry literal database.rows⟩)

/-- Execute the statements of a migration in order. -/
def migrate : List Statement -> Database Value -> Option (Database Value)
  | [], database => some database
  | statement :: rest, database => (statement.execute literal database).bind (migrate rest)

variable {literal} {schema after : Schema} {rows : Rows Value} {database changed : Database Value}
  {statement : Statement} {statements : List Statement}

/-- Schema and rows of a migration do not depend on each other. -/
theorem migrate_eq : migrate literal statements database =
    (evolve statements database.schema).map (fun schema => ⟨schema, carry_all literal statements database.rows⟩) := by
  induction statements generalizing database with
  | nil => rfl
  | cons statement rest inductionHypothesis =>
      rw [migrate, evolve, Statement.execute]
      cases applied : statement.apply database.schema with
      | none => rfl
      | some schema => exact inductionHypothesis

/-! ## Rows fit the schema -/

/-- A cell of the column, with a value where one is required. -/
structure Fits (cell : String × Option Value) (column : Column) : Prop where
  name : cell.1 = column.name
  value : cell.2 = none -> column.nullable = true

theorem fits_iff {cell : String × Option Value} {column : Column} : Fits cell column <->
    cell.1 = column.name ∧ (cell.2.isNone = true -> column.nullable = true) :=
  ⟨fun fits => ⟨fits.name, fun missing => fits.value (Option.isNone_iff_eq_none.mp missing)⟩,
    fun fits => ⟨fits.1, fun missing => fits.2 (Option.isNone_iff_eq_none.mpr missing)⟩⟩

instance (cell : String × Option Value) (column : Column) : Decidable (Fits cell column) :=
  decidable_of_iff _ fits_iff.symm

/-- Every row belongs to a table and has a cell for each of its columns. -/
structure Sound (database : Database Value) : Prop where
  rows : forall name row, row ∈ database.rows name ->
    Exists fun table => database.schema.find name = some table ∧ List.Forall₂ Fits row table.columns

namespace Schema

variable {name other : String} {table : TableDefinition} {change : List Column -> List Column} {indexes : Finset Index}

theorem find_name (found : schema.find name = some table) : table.name = name := by
  have selected := List.find?_some found
  exact of_decide_eq_true selected

theorem find_change : (Schema.mk (schema.change_columns name change) indexes).find other =
    (schema.find other).map (fun table =>
      if table.name = name then { table with columns := change table.columns } else table) := by
  rw [find, change_columns, List.find?_map]
  have same : (fun table : TableDefinition => decide (table.name = other)) ∘ (fun table =>
      if table.name = name then { table with columns := change table.columns } else table) =
        fun table => decide (table.name = other) := by
    funext table
    simp only [Function.comp_apply]
    split <;> rfl
  rw [same]
  rfl

theorem find_filter (different : other ≠ name) :
    (Schema.mk (schema.tables.filter (fun table => decide (table.name ≠ name))) indexes).find other =
      schema.find other := by
  rw [find, List.find?_filter, find]
  congr 1
  funext table
  by_cases same : table.name = other
  · simp [same, different]
  · simp [same]

theorem find_append (found : schema.find other = some table) (new : TableDefinition) :
    (Schema.mk (schema.tables ++ [new]) indexes).find other = some table := by
  have found : schema.tables.find? (fun table => decide (table.name = other)) = some table := found
  rw [find, List.find?_append, found]
  rfl

end Schema

theorem fits_default {column : Column} (allowed : (column.nullable || column.server_default.isSome) = true) :
    Fits (default_cell literal column) column := by
  refine ⟨rfl, fun missing => ?_⟩
  have none_given : column.server_default = none := Option.map_eq_none_iff.mp missing
  rw [none_given] at allowed
  simpa using allowed

theorem fits_names {row : Row Value} {columns : List Column} (fits : List.Forall₂ Fits row columns) :
    row.map Prod.fst = columns.map Column.name := by
  induction fits with
  | nil => rfl
  | cons fit _ inductionHypothesis => rw [List.map_cons, List.map_cons, fit.name, inductionHypothesis]

/-- Dropping a column drops its cell. -/
theorem fits_filter {row : Row Value} {columns : List Column} (fits : List.Forall₂ Fits row columns) (name : String) :
    List.Forall₂ Fits (row.filter (fun cell => decide (cell.1 ≠ name)))
      (columns.filter (fun column => decide (column.name ≠ name))) := by
  induction fits with
  | nil => exact .nil
  | @cons cell column row columns fit _ inductionHypothesis =>
      by_cases same : column.name = name
      · simpa [fit.name, same] using inductionHypothesis
      · simpa [fit.name, same] using List.Forall₂.cons fit inductionHypothesis

/-- A row that is still in its table with the columns it had. -/
theorem Sound.kept (sound : Sound database) {name : String} {row : Row Value} (listed : row ∈ database.rows name)
    (same : forall table, database.schema.find name = some table -> after.find name = some table) :
    Exists fun table => after.find name = some table ∧ List.Forall₂ Fits row table.columns := by
  rcases sound.rows name row listed with ⟨table, found, fits⟩
  exact ⟨table, same table found, fits⟩

theorem Sound.replaced (sound : Sound database) {name other : String} {table : TableDefinition}
    {change : List Column -> List Column} {indexes : Finset Index} {carry : Row Value -> Row Value} {row : Row Value}
    (found : database.schema.find name = some table)
    (listed : row ∈ Function.update database.rows name ((database.rows name).map carry) other)
    (fits : forall row, List.Forall₂ Fits row table.columns -> List.Forall₂ Fits (carry row) (change table.columns)) :
    Exists fun table => (Schema.mk (database.schema.change_columns name change) indexes).find other = some table ∧
      List.Forall₂ Fits row table.columns := by
  by_cases same : other = name
  · subst same
    rw [Function.update_self] at listed
    rcases List.mem_map.mp listed with ⟨old, before, rfl⟩
    rcases sound.rows other old before with ⟨_, found', fitted⟩
    cases found.symm.trans found'
    refine ⟨{ table with columns := change table.columns }, ?_, fits old fitted⟩
    rw [Schema.find_change, found, Option.map_some, if_pos (Schema.find_name found)]
  · rw [Function.update_of_ne same] at listed
    refine sound.kept listed (fun table found => ?_)
    have different : table.name ≠ name := fun equal => same ((Schema.find_name found).symm.trans equal)
    rw [Schema.find_change, found, Option.map_some, if_neg different]

theorem Sound.execute (sound : Sound database) (executed : statement.execute literal database = some changed) :
    Sound changed := by
  rcases Option.map_eq_some_iff.mp executed with ⟨schema, applied, rfl⟩
  refine ⟨fun name row listed => ?_⟩
  cases statement with
  | create_table new =>
      simp only [Statement.apply] at applied
      split at applied
      · cases applied
        have listed : row ∈ Function.update database.rows new.name [] name := listed
        by_cases same : name = new.name
        · rw [same, Function.update_self] at listed
          cases listed
        · rw [Function.update_of_ne same] at listed
          exact sound.kept listed (fun table found => Schema.find_append found new)
      · cases applied
  | drop_table dropped =>
      simp only [Statement.apply] at applied
      split at applied
      · cases applied
        have listed : row ∈ Function.update database.rows dropped [] name := listed
        by_cases same : name = dropped
        · rw [same, Function.update_self] at listed
          cases listed
        · rw [Function.update_of_ne same] at listed
          exact sound.kept listed (fun table found => (Schema.find_filter same).trans found)
      · cases applied
  | add_column table column =>
      simp only [Statement.apply] at applied
      split at applied
      · cases applied
      · next found =>
          split at applied
          · next allowed =>
              cases applied
              exact sound.replaced found listed (fun row fits =>
                List.rel_append fits (.cons (fits_default allowed.2) .nil))
          · cases applied
  | drop_column table column =>
      simp only [Statement.apply] at applied
      split at applied
      · cases applied
      · next found =>
          split at applied
          · cases applied
            exact sound.replaced found listed (fun row fits => fits_filter fits column)
          · cases applied
  | create_index new =>
      simp only [Statement.apply] at applied
      split at applied
      · cases applied
      · split at applied
        · cases applied
          exact sound.kept listed (fun table found => found)
        · cases applied
  | drop_index dropped table =>
      simp only [Statement.apply] at applied
      split at applied
      · cases applied
        exact sound.kept listed (fun table found => found)
      · cases applied

theorem Sound.migrate (sound : Sound database) (migrated : migrate literal statements database = some changed) :
    Sound changed := by
  induction statements generalizing database with
  | nil =>
      cases migrated
      exact sound
  | cons statement rest inductionHypothesis =>
      rcases Option.bind_eq_some_iff.mp migrated with ⟨middle, executed, migrated⟩
      exact inductionHypothesis (sound.execute executed) migrated

end Schemas
end Payments
