import Payments.Infrastructure.Steps

namespace Payments
namespace Infrastructure

open Concurrency Domain

/-!
# What one step does to one row and to the trace

A row changes in one of a few ways, which name the operation responsible, and a
step appends at most one event.
-/

namespace World

variable {run other : RunId} {world after : World}

theorem set_table_self (name : TableName) (table : Table UUID (Row name) RunId) :
    (world.set_table name table).tables name = table := by
  simp only [set_table, Function.update_self]

theorem set_table_of_ne {name found : TableName} (table : Table UUID (Row name) RunId)
    (different : found ≠ name) : (world.set_table name table).tables found = world.tables found := by
  simp only [set_table, Function.update_of_ne different]

/-- How an operation may change the cell of one key. -/
inductive CellChange (run : RunId) (op : Op) {name : TableName} (key : UUID)
    (before after : Cell (Row name) RunId) : Prop where
  | kept (same : after = before)
  | locked (query : Query name) (limit : Int) (row : Row name)
      (operation : op = .select_for_update name query limit) (seen : before.visible run = some row)
      (selected : query.condition row = true) (free : before.heldByOther run = false)
      (same : after = before.write run (some row))
  | updated (statement : Update name) (time : Datetime) (row : Row name) (operation : op = .update name statement)
      (seen : before.visible run = some row) (selected : statement.condition row = true)
      (free : before.heldByOther run = false)
      (same : after = before.write run (some (statement.values time row)))
  | claimed (query : Query name) (limit : Int) (statement : Update name) (time : Datetime) (row : Row name)
      (operation : op = .update_claimable name query limit statement)
      (seen : before.visible run = some row) (selected : query.condition row = true)
      (free : before.heldByOther run = false)
      (same : after = before.write run (some (statement.values time row)))
  | deleted (cutoff : Datetime) (row : OutboxMessageModel) (operation : op = .delete_finished cutoff)
      (table : name = .outbox_messages) (seen : before.visible run = some (table ▸ row))
      (selected : purgeable cutoff row = true) (free : before.heldByOther run = false)
      (same : after = before.write run none)
  | added (row : Row name) (operation : op = .add name row) (own : row.id = key)
      (vacant : before = Cell.vacant) (same : after = Cell.vacant.write run (some row))
  | inserted (row : PaymentModel) (operation : op = .insert_on_conflict_do_nothing (some row))
      (table : name = .payments) (own : row.id = key) (vacant : before = Cell.vacant)
      (same : after = Cell.vacant.write run (some (table ▸ row)))
  | committed (operation : op = .commit) (same : after = before.commit run)
  | released (operation : op = .rollback ∨ op = .close) (same : after = before.rollback run)

theorem cell_set_table_self (name : TableName) (table : Table UUID (Row name) RunId) (key : UUID) :
    (world.set_table name table).cell name key = table.cell key := by
  rw [cell, set_table_self]

theorem cell_set_table_of_ne {name found : TableName} (table : Table UUID (Row name) RunId)
    (different : found ≠ name) (key : UUID) :
    (world.set_table name table).cell found key = world.cell found key := by
  rw [cell, set_table_of_ne table different, cell]

@[simp] theorem cell_note (actor : Actor) (event : Event) (name : TableName) (key : UUID) :
    (world.note actor event).cell name key = world.cell name key :=
  rfl

@[simp] theorem cell_commit (name : TableName) (key : UUID) :
    (world.commit run).cell name key = (world.cell name key).commit run :=
  rfl

@[simp] theorem cell_release (name : TableName) (key : UUID) :
    (world.release run).cell name key = (world.cell name key).rollback run :=
  rfl

@[simp] theorem cell_rollback (name : TableName) (key : UUID) :
    (world.rollback run).cell name key = (world.cell name key).rollback run :=
  rfl

theorem cell_of_unlisted {name : TableName} {key : UUID} (unlisted : key ∉ (world.tables name).keys) :
    world.cell name key = Cell.vacant :=
  (world.tables name).complete key unlisted

/-- A statement on one table changes the cells of that table only. -/
theorem change_set_table {op : Op} {name : TableName}
    {table : Table UUID (Row name) RunId}
    (changes : forall key, CellChange run op key (world.cell name key) (table.cell key))
    (found : TableName) (key : UUID) :
    CellChange run op key (world.cell found key) ((world.set_table name table).cell found key) := by
  by_cases same : found = name
  · subst same
    rw [cell_set_table_self]
    exact changes key
  · rw [cell_set_table_of_ne table same]
    exact .kept rfl

theorem change_put {op : Op} {name : TableName} {row : Row name}
    (unlisted : row.id ∉ (world.tables name).keys)
    (change : CellChange run op row.id (world.cell name row.id)
      (Cell.vacant.write run (some row))) (key : UUID) :
    CellChange run op key (world.cell name key)
      (((world.tables name).put run row.id row).cell key) := by
  by_cases same : key = row.id
  · subst same
    rw [Table.put_cell_self, (world.tables name).complete _ unlisted]
    exact change
  · rw [Table.put_cell_of_ne row same]
    exact .kept rfl

/-- Every operation changes each cell in one of the ways listed. -/
theorem Executed.cell {op : Op} {answer : Except Error op.Answer} (executed : Executed run world op after answer)
    (name : TableName) (key : UUID) :
    CellChange run op key (world.cell name key) (after.cell name key) := by
  cases executed with
  | locked found query limit accepting =>
      refine change_set_table (fun key => ?_) name key
      rcases Table.updateClaimable_cell run query.condition query.before limit.toNat id
        (world.tables found) key with ⟨same, _⟩ | ⟨row, claimed, same⟩
      · exact .kept same
      · rcases Table.mem_claimable claimed with ⟨seen, selected, free⟩
        exact .locked query limit row rfl seen selected free same
  | updated found statement time table rows changed accepting storable =>
      rw [cell_note]
      refine change_set_table (fun key => ?_) name key
      cases Table.update_touched changed key with
      | kept _ same => exact .kept same
      | written row seen selected free same => exact .updated statement time row rfl seen selected free same
  | claimed found query limit statement time table rows changed accepting =>
      rw [cell_note]
      refine change_set_table (fun key => ?_) name key
      have cells := Table.updateClaimable_cell run query.condition query.before limit.toNat
        (statement.values time) (world.tables found) key
      rw [changed] at cells
      rcases cells with ⟨same, _⟩ | ⟨row, claimed, same⟩
      · exact .kept same
      · rcases Table.mem_claimable claimed with ⟨seen, selected, free⟩
        exact .claimed query limit statement time row rfl seen selected free same
  | deleted cutoff table changed accepting =>
      rw [cell_note]
      refine change_set_table (fun key => ?_) name key
      cases Table.delete_touched changed key with
      | kept _ same => exact .kept same
      | written row seen selected free same => exact .deleted cutoff row rfl rfl seen selected free same
  | added found row storable unlisted =>
      refine change_set_table (fun key => change_put unlisted ?_ key) name key
      exact .added row rfl rfl (cell_of_unlisted unlisted) rfl
  | inserted row storable unseen uncontended unlisted =>
      refine change_set_table (fun key => change_put unlisted ?_ key) name key
      exact .inserted row rfl rfl rfl (cell_of_unlisted unlisted) rfl
  | committed answer known accepting => exact .committed rfl rfl
  | rolled_back answer known => exact .released (.inl rfl) rfl
  | closed answer known => exact .released (.inr rfl) rfl
  | _ => exact .kept rfl

theorem crash_cell (name : TableName) (key : UUID) :
    (world.crash run).cell name key = (world.cell name key).rollback run := by
  unfold crash requeue
  split <;> rfl

theorem Occurred.tables (occurred : Occurred world after) : after.tables = world.tables := by
  cases occurred <;> rfl

theorem Occurred.cell (occurred : Occurred world after) (name : TableName) (key : UUID) :
    after.cell name key = world.cell name key := by
  rw [World.cell, World.cell, occurred.tables]

/-! ## Keys stay listed -/

theorem listed_set_table {name : TableName} {table : Table UUID (Row name) RunId}
    (listed : forall key, key ∈ (world.tables name).keys -> key ∈ table.keys) {found : TableName} {key : UUID}
    (before : key ∈ (world.tables found).keys) : key ∈ ((world.set_table name table).tables found).keys := by
  by_cases same : found = name
  · subst same
    rw [set_table_self]
    exact listed key before
  · rwa [set_table_of_ne table same]

theorem listed_put {name : TableName} {row : Row name} {key : UUID}
    (listed : key ∈ (world.tables name).keys) :
    key ∈ ((world.tables name).put run row.id row).keys := by
  simp only [Table.put]
  split
  · exact listed
  · exact List.mem_cons_of_mem _ listed

theorem Executed.listed {op : Op} {answer : Except Error op.Answer}
    (executed : Executed run world op after answer) {name : TableName} {key : UUID}
    (listed : key ∈ (world.tables name).keys) : key ∈ (after.tables name).keys := by
  cases executed with
  | locked found query limit accepting =>
      refine listed_set_table (fun key before => ?_) listed
      exact before
  | updated found statement time table rows changed accepting storable =>
      exact listed_set_table (fun key before => by rwa [Table.update_keys changed]) listed
  | claimed found query limit statement time table rows changed accepting =>
      refine listed_set_table (fun key before => ?_) listed
      rw [← (Prod.mk.inj changed).1]
      exact before
  | deleted cutoff table changed accepting =>
      exact listed_set_table (fun key before => by rwa [Table.delete_keys changed]) listed
  | added found row storable unlisted => exact listed_set_table (fun _ before => listed_put before) listed
  | inserted row storable unseen uncontended unlisted =>
      exact listed_set_table (fun _ before => listed_put before) listed
  | _ => exact listed

theorem crash_listed {name : TableName} {key : UUID} (listed : key ∈ (world.tables name).keys) :
    key ∈ ((world.crash run).tables name).keys := by
  unfold crash requeue
  split <;> exact listed

/-! ## Versions of a row -/

/-- The row versions an operation may write to a key, given the version its
run sees there. -/
inductive Writes (op : Op) {name : TableName} (key : UUID) (seen : Option (Row name)) (row : Row name) :
    Prop where
  | updated (statement : Update name) (time : Datetime) (old : Row name)
      (operation : op = .update name statement) (found : seen = some old)
      (selected : statement.condition old = true) (same : row = statement.values time old)
  | claimed (query : Query name) (limit : Int) (statement : Update name) (time : Datetime) (old : Row name)
      (operation : op = .update_claimable name query limit statement) (found : seen = some old)
      (selected : query.condition old = true) (same : row = statement.values time old)
  | added (operation : op = .add name row) (own : row.id = key)
  | inserted (new : PaymentModel) (table : name = .payments)
      (operation : op = .insert_on_conflict_do_nothing (some new)) (own : new.id = key)
      (same : row = table ▸ new)

/-- A version that exists after an operation existed before or was written. -/
theorem CellChange.carries {op : Op} {name : TableName} {key : UUID} {before after : Cell (Row name) RunId}
    (change : CellChange run op key before after) {row : Row name} (carried : after.Carries row) :
    before.Carries row ∨ Writes op key (before.visible run) row := by
  have written : forall {draft : Row name} {old : Cell (Row name) RunId},
      (old.write run (some draft)).Carries row -> old.Carries row ∨ row = draft := by
    intro draft old carried
    cases carried with
    | committed same => exact .inl (.committed same)
    | draft same => exact .inr (Option.some.inj (Prod.mk.inj (Option.some.inj same)).2).symm
  have vacant : forall {row : Row name}, ¬ (Cell.vacant : Cell (Row name) RunId).Carries row := by
    intro row carried
    cases carried with
    | committed same => cases same
    | draft same => cases same
  cases change with
  | kept same => exact .inl (same ▸ carried)
  | locked query limit found operation seen selected free same =>
      rcases written (same ▸ carried) with old | rfl
      · exact .inl old
      · exact .inl (Cell.carries_of_visible seen)
  | updated statement time found operation seen selected free same =>
      rcases written (same ▸ carried) with old | rfl
      · exact .inl old
      · exact .inr (.updated statement time found operation seen selected rfl)
  | claimed query limit statement time found operation seen selected free same =>
      rcases written (same ▸ carried) with old | rfl
      · exact .inl old
      · exact .inr (.claimed query limit statement time found operation seen selected rfl)
  | deleted cutoff found operation table seen selected free same =>
      subst same
      cases carried with
      | committed same => exact .inl (.committed same)
      | draft same => cases same
  | added found operation own _ same =>
      rcases written (same ▸ carried) with old | rfl
      · exact (vacant old).elim
      · exact .inr (.added operation own)
  | inserted found operation table own _ same =>
      rcases written (same ▸ carried) with old | rfl
      · exact (vacant old).elim
      · exact .inr (.inserted found table operation own rfl)
  | committed operation same => exact .inl (Cell.carries_of_commit (same ▸ carried))
  | released operation same => exact .inl (Cell.carries_of_rollback (same ▸ carried))

/-! ## Rows are stored under their identifiers -/

/-- Every version of every row is stored under its primary key. -/
def Keyed (world : World) : Prop :=
  forall (name : TableName) (key : UUID) (row : Row name), (world.cell name key).Carries row -> row.id = key

theorem keyed_initially : Keyed World.initial := by
  intro name key row carried
  cases carried with
  | committed same => cases same
  | draft same => cases same

theorem Keyed.executed {op : Op} {answer : Except Error op.Answer} (keyed : Keyed world)
    (executed : Executed run world op after answer) : Keyed after := by
  intro name key row carried
  rcases (executed.cell name key).carries carried with before | written
  · exact keyed name key row before
  · cases written with
    | updated statement time old operation found selected same =>
        rw [same, Update.id_values]
        exact keyed name key old (Cell.carries_of_visible found)
    | claimed query limit statement time old operation found selected same =>
        rw [same, Update.id_values]
        exact keyed name key old (Cell.carries_of_visible found)
    | added operation own => exact own
    | inserted new table operation own same =>
        cases table
        cases same
        exact own

theorem Keyed.crash (keyed : Keyed world) : Keyed (world.crash run) := by
  intro name key row carried
  rw [crash_cell] at carried
  exact keyed name key row (Cell.carries_of_rollback carried)

theorem Keyed.of_tables (keyed : Keyed world) (tables : after.tables = world.tables) : Keyed after := by
  intro name key row carried
  rw [cell, tables] at carried
  exact keyed name key row carried

/-! ## Steps that either change nothing or have one effect -/

theorem Executed.commit_cases {answer : Except Error Unit} (executed : Executed run world .commit after answer) :
    after = world ∨ after = world.commit run := by
  cases executed with
  | raised => exact .inl rfl
  | committed answer known accepting => exact .inr rfl

/-- A row is added under a key that has never been listed. -/
theorem Executed.add_cases {name : TableName} {row : Row name} {answer : Except Error Unit}
    (executed : Executed run world (.add name row) after answer) :
    after.tables = world.tables ∨ row.id ∉ (world.tables name).keys := by
  cases executed with
  | raised => exact .inl rfl
  | added name row storable unlisted => exact .inr unlisted
  | add_refused name row => exact .inl rfl

/-- What an update of one identifier comes to: it writes the row its transaction
sees there and reports it, or it changes nothing and reports nothing. -/
inductive UpdatedAt (run : RunId) {name : TableName} (statement : Update name) (id : UUID) (world after : World)
    (rows : List (Row name)) : Prop where
  | missed (unmatched : forall row, (world.cell name id).visible run = some row -> statement.condition row = false)
      (empty : rows = []) (same : forall found key, after.cell found key = world.cell found key)
  | matched (row : Row name) (time : Datetime) (seen : (world.cell name id).visible run = some row)
      (selected : statement.condition row = true) (free : (world.cell name id).heldByOther run = false)
      (single : rows = [statement.values time row])
      (written : after.cell name id = (world.cell name id).write run (some (statement.values time row)))
      (others : forall found key, (found = name -> key ≠ id) -> after.cell found key = world.cell found key)

theorem Executed.updated_at {name : TableName} {statement : Update name} {id : UUID} {rows : List (Row name)}
    (keyed : Keyed world) (named : forall row, statement.condition row = true -> row.id = id)
    (executed : Executed run world (.update name statement) after (.ok rows)) :
    UpdatedAt run statement id world after rows := by
  cases executed with
  | updated _ _ time table _ changed accepting storable =>
      have only : forall key row, ((world.tables name).cell key).visible run = some row ->
          statement.condition row = true -> key = id := by
        intro key row seen selected
        exact (keyed name key row (Cell.carries_of_visible seen)).symm.trans (named row selected)
      have reported := Table.update_at changed only
      have outside : forall found key, (found = name -> key ≠ id) ->
          (note (.run run) (.updated name statement rows) (world.set_table name table)).cell found key =
            world.cell found key := by
        intro found key different
        rw [cell_note]
        by_cases same : found = name
        · subst same
          rw [cell_set_table_self]
          cases Table.update_touched changed key with
          | kept _ unchanged => exact unchanged
          | written row seen selected => exact absurd (only key row seen selected) (different rfl)
        · exact cell_set_table_of_ne table same key
      have inside : (note (.run run) (.updated name statement rows) (world.set_table name table)).cell name id =
          table.cell id := by
        rw [cell_note, cell_set_table_self]
      cases Table.update_touched changed id with
      | kept unselected unchanged =>
          refine .missed unselected ?_ (fun found key => ?_)
          · rw [reported]
            cases seen : ((world.tables name).cell id).visible run with
            | none => rfl
            | some row => simp [unselected row seen]
          · by_cases here : found = name ∧ key = id
            · rcases here with ⟨rfl, rfl⟩
              exact inside.trans unchanged
            · exact outside found key (fun same named => here ⟨same, named⟩)
      | written row seen selected free unchanged =>
          refine .matched row time seen selected free ?_ (inside.trans unchanged) outside
          rw [reported, seen]
          simp [selected]

/-- A purge that has not raised is on record. -/
theorem Executed.purge_recorded {cutoff : Datetime} {answer : Except Error Unit}
    (executed : Executed run world (.delete_finished cutoff) after answer) :
    after = world ∨ after.trace = (.run run, .purged cutoff
      ((world.tables .outbox_messages).select run (purgeable cutoff))) :: world.trace := by
  cases executed with
  | raised => exact .inl rfl
  | deleted cutoff table changed accepting => exact .inr rfl

/-- Only the end of its transaction takes a lock from a run. -/
theorem CellChange.held {op : Op} {name : TableName} {key : UUID} {before after : Cell (Row name) RunId}
    (change : CellChange run op key before after) (held : before.HeldBy run) (not_commit : op ≠ .commit)
    (not_rollback : op ≠ .rollback) (not_close : op ≠ .close) : after.HeldBy run := by
  have vacant : ¬ (Cell.vacant : Cell (Row name) RunId).HeldBy run := by
    rintro ⟨_, locked⟩
    cases locked
  cases change with
  | kept same => exact same ▸ held
  | locked query limit row operation seen selected free same => exact same ▸ ⟨_, rfl⟩
  | updated statement time row operation seen selected free same => exact same ▸ ⟨_, rfl⟩
  | claimed query limit statement time row operation seen selected free same => exact same ▸ ⟨_, rfl⟩
  | deleted cutoff row operation table seen selected free same => exact same ▸ ⟨_, rfl⟩
  | added row operation own unlisted same => exact absurd (unlisted ▸ held) vacant
  | inserted row operation table own unlisted same => exact absurd (unlisted ▸ held) vacant
  | committed operation same => exact absurd operation not_commit
  | released operation same => exact (operation.elim not_rollback not_close).elim

/-- Only a commit changes what is committed. -/
theorem CellChange.committed_same {op : Op} {name : TableName} {key : UUID}
    {before after : Cell (Row name) RunId} (change : CellChange run op key before after)
    (not_commit : op ≠ .commit) : after.committed = before.committed := by
  cases change with
  | kept same => rw [same]
  | added row operation own unlisted same =>
      rw [same, unlisted]
      rfl
  | inserted row operation table own unlisted same =>
      rw [same, unlisted]
      rfl
  | committed operation same => exact absurd operation not_commit
  | released operation same => rw [same, Cell.rollback_committed]
  | _ =>
      rename_i same
      rw [same]
      rfl

/-! ## Records of transactions -/

/-- A transaction installs what its run has locked. -/
theorem mem_record {name : TableName} {key : UUID} {draft : Option (Row name)} :
    (key, draft) ∈ world.record run name <-> (world.cell name key).lock = some (run, draft) := by
  simp only [record, List.mem_filterMap]
  constructor
  · rintro ⟨found, _, same⟩
    split at same
    · next holder held locked =>
        split at same
        · next mine =>
            cases same
            exact mine ▸ locked
        · cases same
    · cases same
  · intro locked
    refine ⟨key, ?_, by simp [locked]⟩
    by_contra unlisted
    rw [cell_of_unlisted unlisted] at locked
    cases locked

/-- A transaction installs one version of each row. -/
theorem record_nodup (name : TableName) : ((world.record run name).map Prod.fst).Nodup := by
  rw [record, List.map_filterMap]
  refine (world.tables name).nodup.filterMap (fun first second key one two => ?_)
  rw [Option.mem_def, Option.map_eq_some_iff] at one two
  rcases one with ⟨⟨found, draft⟩, held, rfl⟩
  rcases two with ⟨⟨found', draft'⟩, held', same⟩
  have first_key : found = first := by
    split at held
    · split at held
      · exact (congrArg Prod.fst (Option.some.inj held)).symm
      · cases held
    · cases held
  have second_key : found' = second := by
    split at held'
    · split at held'
      · exact (congrArg Prod.fst (Option.some.inj held')).symm
      · cases held'
    · cases held'
  exact (first_key.symm.trans same.symm).trans second_key

/-! ## The broker -/

/-- The operations that change something at the broker. -/
def handles_broker : Op -> Bool
  | .published_all => true
  | .publish_dlq _ => true
  | .ack => true
  | .nack => true
  | _ => false

theorem Executed.broker {op : Op} {answer : Except Error op.Answer}
    (executed : Executed run world op after answer) (apart : handles_broker op = false) :
    after.broker = world.broker := by
  cases executed <;> first | rfl | cases apart

/-! ## What one step adds to the trace -/

/-- The event an operation may record. -/
inductive Records (run : RunId) (world : World) : Op -> Event -> Prop where
  | clock_read (reading : Datetime) : Records run world .now (.clock_read reading)
  | updated (name : TableName) (statement : Update name) (rows : List (Row name)) :
      Records run world (.update name statement) (.updated name statement rows)
  | updated_claimable (name : TableName) (query : Query name) (limit : Int) (statement : Update name)
      (rows : List (Row name)) :
      Records run world (.update_claimable name query limit statement)
        (.updated_claimable name query statement rows)
  | purged (cutoff : Datetime) :
      Records run world (.delete_finished cutoff)
        (.purged cutoff ((world.tables .outbox_messages).select run (purgeable cutoff)))
  | committed : Records run world .commit (.committed (world.record run))
  | rolled_back : Records run world .rollback .rolled_back
  | charge_called (payment_id : UUID) (amount : Money) (idempotency_key : String) :
      Records run world (.charge_call payment_id amount idempotency_key)
        (.charge_called payment_id amount idempotency_key)
  | charge_returned (payment_id : UUID) (result : GatewayResult) :
      Records run world (.charge_return payment_id) (.charge_returned payment_id result)
  | charge_raised (payment_id : UUID) :
      Records run world (.charge_return payment_id) (.charge_raised payment_id)
  | gathered (results : List (WebhookDelivery × Option WebhookSendResult)) :
      Records run world .sent_all (.gathered results)
  | dead_lettered (message : Message) :
      Records run world (.publish_dlq message) (.dead_lettered message)
  | acked (message : Message) (answered : world.broker.unacked run = some message) :
      Records run world .ack (.acked message)
  | nacked (message : Message) (answered : world.broker.unacked run = some message) :
      Records run world .nack (.nacked message)

/-- Every operation appends at most one event, of its run. -/
theorem Executed.trace {op : Op} {answer : Except Error op.Answer}
    (executed : Executed run world op after answer) :
    after.trace = world.trace ∨
      Exists fun event => Records run world op event ∧ after.trace = (.run run, event) :: world.trace := by
  cases executed with
  | now reading => exact .inr ⟨_, .clock_read reading, rfl⟩
  | updated name statement time table rows changed accepting storable =>
      exact .inr ⟨_, .updated name statement rows, rfl⟩
  | claimed name query limit statement time table rows changed accepting =>
      exact .inr ⟨_, .updated_claimable name query limit statement rows, rfl⟩
  | deleted cutoff table changed accepting => exact .inr ⟨_, .purged cutoff, rfl⟩
  | committed answer known accepting => exact .inr ⟨_, .committed, rfl⟩
  | rolled_back answer known => exact .inr ⟨_, .rolled_back, rfl⟩
  | charge_called payment_id amount key => exact .inr ⟨_, .charge_called payment_id amount key, rfl⟩
  | charge_returned payment_id result => exact .inr ⟨_, .charge_returned payment_id result, rfl⟩
  | charge_raised payment_id error known => exact .inr ⟨_, .charge_raised payment_id, rfl⟩
  | sent results quiet ended => exact .inr ⟨_, .gathered results, rfl⟩
  | dead_lettered message answer known => exact .inr ⟨_, .dead_lettered message, rfl⟩
  | acked message delivered answer known => exact .inr ⟨_, .acked message delivered, rfl⟩
  | nacked message delivered answer known => exact .inr ⟨_, .nacked message delivered, rfl⟩
  | _ => exact .inl rfl

/-- A claim that has not raised is on record. -/
theorem Executed.claim_recorded {name : TableName} {query : Query name} {limit : Int}
    {statement : Update name} {answer : Except Error (List (Row name))}
    (executed : Executed run world (.update_claimable name query limit statement) after answer) :
    after = world ∨ Exists fun rows =>
      after.trace = (.run run, .updated_claimable name query statement rows) :: world.trace := by
  cases executed with
  | raised => exact .inl rfl
  | claimed _ _ _ _ time table rows changed accepting => exact .inr ⟨rows, rfl⟩

theorem crash_trace : (world.crash run).trace = (.run run, .rolled_back) :: world.trace := by
  unfold crash requeue
  split <;> rfl

/-- The events the environment records are about publishes and sends. -/
inductive Observed : Event -> Prop where
  | publish_called (worker : RunId) (message : OutboxMessage) : Observed (.publish_called worker message)
  | publish_confirmed (worker : RunId) (message : OutboxMessage) :
      Observed (.publish_confirmed worker message)
  | publish_failed (worker : RunId) (message : OutboxMessage) : Observed (.publish_failed worker message)
  | send_called (worker : RunId) (request : WebhookRequest) : Observed (.send_called worker request)
  | send_finished (worker : RunId) (delivery_id : UUID) (outcome : ClientOutcome) :
      Observed (.send_finished worker delivery_id outcome)

theorem Occurred.trace (occurred : Occurred world after) :
    after.trace = world.trace ∨
      Exists fun noted => Observed noted ∧ after.trace = (.environment, noted) :: world.trace := by
  cases occurred with
  | publish_started owner index message landed found =>
      exact .inr ⟨_, .publish_called owner message, rfl⟩
  | publish_confirmed owner index message found => exact .inr ⟨_, .publish_confirmed owner message, rfl⟩
  | publish_failed owner index message landed found => exact .inr ⟨_, .publish_failed owner message, rfl⟩
  | send_started owner index delivery request found => exact .inr ⟨_, .send_called owner request, rfl⟩
  | send_finished owner index delivery request outcome found =>
      exact .inr ⟨_, .send_finished owner delivery.id outcome, rfl⟩
  | _ => exact .inl rfl

theorem trace_executed {op : Op} {answer : Except Error op.Answer}
    (executed : Executed run world op after answer) : world.trace <:+ after.trace := by
  rcases executed.trace with same | ⟨event, _, same⟩
  · exact same ▸ List.suffix_rfl
  · rw [same]
    exact List.suffix_cons _ _

theorem trace_crash : world.trace <:+ (world.crash run).trace := by
  rw [crash_trace]
  exact List.suffix_cons _ _

theorem trace_occurred (occurred : Occurred world after) : world.trace <:+ after.trace := by
  rcases occurred.trace with same | ⟨event, _, same⟩
  · exact same ▸ List.suffix_rfl
  · rw [same]
    exact List.suffix_cons _ _

end World
end Infrastructure
end Payments
