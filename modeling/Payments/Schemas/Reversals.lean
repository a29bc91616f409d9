import Payments.Schemas.Definitions

namespace Payments
namespace Schemas

/-!
# Migrations that can be taken back

A migration is reversible when its two lists of statements lead from one schema
to the other and back, and its tables and columns are dropped in the reverse of
the order in which they were made.  Both can be checked by running the lists on
the schemas.  Rows then come back as they were, whatever they hold.
-/

variable {Value : Type} {literal : String -> Value} {schema after : Schema} {rows : Rows Value}
  {database changed : Database Value} {statement forth back : Statement} {statements : List Statement}

/-- An index holds no rows. -/
def Statement.moves_rows : Statement -> Bool
  | .create_index _ => false
  | .drop_index _ _ => false
  | _ => true

/-- The second statement drops what the first one has made. -/
def Statement.undone_by : Statement -> Statement -> Bool
  | .create_table new, .drop_table name => decide (name = new.name)
  | .add_column table column, .drop_column table' name => decide (table' = table ∧ name = column.name)
  | _, _ => false

structure Migration where
  upgrade : List Statement
  downgrade : List Statement

/-- The migration leads from the first schema to the second one and back. -/
structure Migration.Reversible (migration : Migration) (schema after : Schema) : Prop where
  upgrades : evolve migration.upgrade schema = some after
  downgrades : evolve migration.downgrade after = some schema
  reversed : List.Forall₂ (fun forth back => Statement.undone_by forth back = true)
    (migration.upgrade.filter Statement.moves_rows) (migration.downgrade.filter Statement.moves_rows).reverse

/-! ## One statement -/

theorem carry_of_still (still : statement.moves_rows = false) : statement.carry literal rows = rows := by
  cases statement with
  | create_index new => rfl
  | drop_index name table => rfl
  | create_table new => cases still
  | drop_table name => cases still
  | add_column table column => cases still
  | drop_column table name => cases still

theorem carry_all_filter :
    carry_all literal (statements.filter Statement.moves_rows) rows = carry_all literal statements rows := by
  induction statements generalizing rows with
  | nil => rfl
  | cons statement rest inductionHypothesis =>
      cases moves : statement.moves_rows with
      | true =>
          rw [List.filter_cons_of_pos moves]
          exact inductionHypothesis
      | false =>
          rw [List.filter_cons_of_neg (by simp [moves]), inductionHypothesis]
          change _ = carry_all literal rest (statement.carry literal rows)
          rw [carry_of_still moves]

/-- A new table has no rows, and a new column no cells. -/
theorem carry_undone (sound : Sound database) (applied : forth.apply database.schema = some after)
    (undone : forth.undone_by back = true) :
    back.carry literal (forth.carry literal database.rows) = database.rows := by
  cases forth with
  | create_table new =>
      cases back with
      | drop_table name =>
          cases of_decide_eq_true undone
          have vacant : database.rows new.name = [] := by
            simp only [Statement.apply] at applied
            split at applied
            · next allowed =>
                refine List.eq_nil_iff_forall_not_mem.mpr (fun row listed => ?_)
                rcases sound.rows new.name row listed with ⟨table, found, _⟩
                have fresh := allowed.1
                rw [found] at fresh
                cases fresh
            · cases applied
          simp only [Statement.carry, Function.update_idem]
          rw [← vacant, Function.update_eq_self]
      | _ => cases undone
  | add_column name column =>
      cases back with
      | drop_column name' dropped =>
          rcases of_decide_eq_true undone with ⟨rfl, rfl⟩
          simp only [Statement.apply] at applied
          split at applied
          · cases applied
          · next table found =>
              split at applied
              · next allowed =>
                  have unnamed : forall row, row ∈ database.rows name' ->
                      forall cell, cell ∈ row -> cell.1 ≠ column.name := by
                    intro row listed cell member same
                    rcases sound.rows name' row listed with ⟨_, found', fits⟩
                    cases found.symm.trans found'
                    have listed : cell.1 ∈ row.map Prod.fst := List.mem_map_of_mem member
                    rw [fits_names fits, same] at listed
                    exact allowed.1 listed
                  have restored : ((database.rows name').map (fun row => row ++ [default_cell literal column])).map
                      (fun row => row.filter (fun cell => decide (cell.1 ≠ column.name))) = database.rows name' := by
                    rw [List.map_map]
                    refine (List.map_congr_left (fun row listed => ?_)).trans (List.map_id _)
                    have dropped : [(default_cell literal column)].filter
                        (fun cell => decide (cell.1 ≠ column.name)) = [] := by
                      simp [default_cell]
                    rw [Function.comp_apply, List.filter_append, dropped, List.append_nil]
                    exact List.filter_eq_self.mpr (fun cell member => decide_eq_true (unnamed row listed cell member))
                  simp only [Statement.carry, Function.update_self, Function.update_idem]
                  rw [restored, Function.update_eq_self]
              · cases applied
      | _ => cases undone
  | _ => cases undone

/-! ## A whole migration -/

/-- Dropping what was made, the last thing first, brings the rows back. -/
theorem rows_undone {backs : List Statement} (sound : Sound database)
    (migrated : migrate literal statements database = some changed)
    (reversed : List.Forall₂ (fun forth back => Statement.undone_by forth back = true)
      (statements.filter Statement.moves_rows) backs) :
    carry_all literal backs.reverse changed.rows = database.rows := by
  induction statements generalizing database backs with
  | nil =>
      cases migrated
      cases reversed
      rfl
  | cons statement rest inductionHypothesis =>
      rcases Option.bind_eq_some_iff.mp migrated with ⟨middle, executed, migrated⟩
      have sound' := sound.execute executed
      rcases Option.map_eq_some_iff.mp executed with ⟨schema, applied, rfl⟩
      cases moves : statement.moves_rows with
      | false =>
          rw [List.filter_cons_of_neg (by simp [moves])] at reversed
          have restored := inductionHypothesis sound' migrated reversed
          exact restored.trans (carry_of_still moves)
      | true =>
          rw [List.filter_cons_of_pos moves] at reversed
          cases reversed with
          | @cons _ back _ backs undone reversed =>
              have restored := inductionHypothesis sound' migrated reversed
              rw [List.reverse_cons, carry_all, List.foldl_append]
              have last : carry_all literal [back] (carry_all literal backs.reverse changed.rows) = database.rows := by
                rw [restored]
                exact carry_undone sound applied undone
              exact last

/-- Reversible migrations between the schemas of consecutive revisions. -/
def migration_chain (literal : String -> Value) (height : Nat) (migration : Nat -> Migration) (schema : Nat -> Schema)
    (reversible : forall revision, revision < height ->
      (migration revision).Reversible (schema revision) (schema (revision + 1))) : Chain (Database Value) where
  height := height
  upgrade := fun revision database => migrate literal (migration revision).upgrade database
  downgrade := fun revision database => migrate literal (migration revision).downgrade database
  valid := fun revision database => database.schema = schema revision ∧ Sound database
  upgrades := by
    rintro revision database below ⟨same, sound⟩
    have evolves := (reversible revision below).upgrades
    have migrated : migrate literal (migration revision).upgrade database =
        some ⟨schema (revision + 1), carry_all literal (migration revision).upgrade database.rows⟩ := by
      rw [migrate_eq, same, evolves]
      rfl
    exact ⟨_, migrated, rfl, sound.migrate migrated⟩
  downgrades := by
    rintro revision database below ⟨same, sound⟩
    have evolves := (reversible revision below).downgrades
    have migrated : migrate literal (migration revision).downgrade database =
        some ⟨schema revision, carry_all literal (migration revision).downgrade database.rows⟩ := by
      rw [migrate_eq, same, evolves]
      rfl
    exact ⟨_, migrated, rfl, sound.migrate migrated⟩
  undone := by
    rintro revision database next below ⟨same, sound⟩ migrated
    have restored := rows_undone sound migrated (reversible revision below).reversed
    rw [migrate_eq, same, (reversible revision below).upgrades] at migrated
    cases migrated
    rw [migrate_eq, (reversible revision below).downgrades, Option.map_some]
    rw [List.reverse_reverse] at restored
    have rows : carry_all literal (migration revision).downgrade
        (carry_all literal (migration revision).upgrade database.rows) = database.rows :=
      carry_all_filter.symm.trans restored
    rw [rows, ← same]

end Schemas
end Payments
