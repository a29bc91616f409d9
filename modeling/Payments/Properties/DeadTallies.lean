import Payments.Properties.OutboxFencing

namespace Payments
namespace Properties

open Concurrency Domain Infrastructure Application Payments.System

/-!
# Dead messages and what a worker has counted

From its own events one can read which messages a worker has counted as dead,
and which ones its committed transactions have moved to `DEAD`.  The difference
are the messages counted in the transaction that is still open, provided that
every mark without a retry time finds its row and no transaction that has
counted a message is rolled back.
-/

variable {deployment : Deployment} {world after : World} {run other : RunId} {op : Op}

/-! ## Reading the events of a worker -/

/-- Released to dead by the last statement, and not counted yet. -/
def released : List Event -> List UUID
  | .updated .outbox_messages (.release_to_dead _ _) rows :: _ =>
      rows.map (fun row : OutboxMessageModel => row.id)
  | _ => []

/-- The messages that are counted when an operation returns. -/
def gain : Op -> List Event -> List UUID
  | .update .outbox_messages (.release_to_pending _ _), events => released events
  | .update .outbox_messages (.mark_publish_failure message_id _ _ none), _ => [message_id]
  | _, _ => []

/-- The operation whose return the event records, for the statements that count. -/
def gain_event : Event -> List Event -> List UUID
  | .updated name statement _, events => gain (.update name statement) events
  | _, _ => []

/-- All messages a worker has counted. -/
def counted_ids : List Event -> List UUID
  | [] => []
  | event :: older => gain_event event older ++ counted_ids older

/-- The messages counted since the last transaction has ended. -/
def open_ids : List Event -> List UUID
  | [] => []
  | .committed _ :: _ => []
  | .rolled_back :: _ => []
  | event :: older => gain_event event older ++ open_ids older

/-- The rows that a transaction has moved to dead. -/
def died (record : Record) : List UUID :=
  (record .outbox_messages).filterMap (fun change =>
    match change.2 with
    | some row => if OutboxMessageModel.status row = .DEAD then some change.1 else none
    | none => none)

/-- The rows that the committed transactions of a worker have moved to dead. -/
def dead_ids : List Event -> List UUID
  | [] => []
  | .committed record :: older => died record ++ dead_ids older
  | _ :: older => dead_ids older

/-- The transaction of the run has written the row as dead. -/
def Dies (run : RunId) (key : UUID) (world : World) : Prop :=
  Exists fun draft => (world.cell .outbox_messages key).lock = some (run, some draft) ∧ draft.status = .DEAD

/-- What a worker has counted are the rows that its committed transactions have
moved to dead, and the rows that its open transaction has. -/
structure Balanced (run : RunId) (world : World) : Prop where
  counted : (counted_ids (world.own run)).Perm (open_ids (world.own run) ++ dead_ids (world.own run))
  nodup : (open_ids (world.own run) ++ released (world.own run)).Nodup
  drafts : forall key, Dies run key world <-> key ∈ open_ids (world.own run) ++ released (world.own run)
  /-- A row that dies in the transaction is not settled yet. -/
  fresh : forall key row, Dies run key world -> (world.cell .outbox_messages key).committed = some row ->
    ¬ settled row

/-- A step that keeps the counters honest: a worker that marks a message without
a retry time still owns its row, what is rolled back has counted nothing, and
the reaper finds no row. -/
structure Accounted (before after : World) : Prop where
  found : forall run message_id worker_id limit rows, after.trace =
    (.run run, .updated .outbox_messages (.mark_publish_failure message_id worker_id limit none) rows) :: before.trace ->
    Exists fun row => Owns run message_id row before
  kept : forall run, after.trace = (.run run, .rolled_back) :: before.trace -> open_ids (before.own run) = []
  unreaped : forall run limit rows, after.trace =
    (.run run, .updated .outbox_messages (.reap_exhausted limit) rows) :: before.trace -> rows = []

/-- What a program keeps to when it executes an operation: only the statement
that counts the released rows, or a rollback, follows their release, and a
transaction that has counted something is neither closed nor purges. -/
structure Tallies (op : Op) (events : List Event) : Prop where
  released : released events ≠ [] ->
    op = .rollback ∨ Exists fun cutoff => Exists fun limit => op = .update .outbox_messages (.release_to_pending cutoff limit)
  opened : open_ids events ≠ [] -> op ≠ .close ∧ forall cutoff, op ≠ .delete_finished cutoff

/-! ## Rows that die -/

theorem mem_died {key : UUID} : key ∈ died (world.record run) <-> Dies run key world := by
  rw [died, List.mem_filterMap]
  constructor
  · rintro ⟨⟨found, draft⟩, listed, same⟩
    cases draft with
    | none => cases same
    | some row =>
        dsimp only at same
        split at same
        · next dead =>
            cases same
            exact ⟨row, World.mem_record.mp listed, dead⟩
        · cases same
  · rintro ⟨draft, locked, dead⟩
    refine ⟨(key, some draft), World.mem_record.mpr locked, ?_⟩
    exact if_pos dead

theorem died_sublist (record : Record) : (died record).Sublist ((record .outbox_messages).map Prod.fst) := by
  rw [died]
  induction record .outbox_messages with
  | nil => exact .slnil
  | cons change rest inductionHypothesis =>
      rw [List.filterMap_cons, List.map_cons]
      split
      · exact inductionHypothesis.cons change.1
      · next key found =>
          rcases change with ⟨found_key, draft⟩
          cases draft with
          | none => cases found
          | some row =>
              dsimp only at found
              split at found
              · cases found
                exact inductionHypothesis.cons_cons _
              · cases found

theorem died_nodup : (died (world.record run)).Nodup :=
  (World.record_nodup .outbox_messages).sublist (died_sublist (world.record run))

/-- The row is dead in the transaction of the run after a statement that writes nothing else. -/
theorem dies_of_lock {key : UUID} {draft : OutboxMessageModel}
    (locked : (world.cell .outbox_messages key).lock = some (run, some draft)) :
    Dies run key world <-> draft.status = .DEAD := by
  constructor
  · rintro ⟨found, locked', dead⟩
    rw [locked] at locked'
    cases locked'
    exact dead
  · exact fun dead => ⟨draft, locked, dead⟩

theorem dies_of_cell {key : UUID} (same : after.cell .outbox_messages key = world.cell .outbox_messages key) :
    Dies run key after <-> Dies run key world := by
  rw [Dies, Dies, same]

/-- A row that a run sees alive is not dead in its transaction. -/
theorem not_dies_of_visible {key : UUID} {row : OutboxMessageModel}
    (seen : (world.cell .outbox_messages key).visible run = some row) (alive : row.status ≠ .DEAD) :
    ¬ Dies run key world := by
  rintro ⟨draft, locked, dead⟩
  rw [Cell.visible_of_lock locked] at seen
  cases seen
  exact alive dead

/-- Operations that neither end a transaction, purge, nor write a row as dead
leave the dead rows of the transaction as they are. -/
theorem dies_executed {answer : Except Error op.Answer} {key : UUID}
    (permits : LeasePermits deployment run op world) (executed : World.Executed run world op after answer)
    (ends : op ≠ .commit ∧ op ≠ .rollback ∧ op ≠ .close) (purges : forall cutoff, op ≠ .delete_finished cutoff)
    (alive : forall statement row time, op = .update .outbox_messages statement ->
      (world.cell .outbox_messages key).visible run = some row -> statement.condition row = true ->
      (statement.values time row).status ≠ .DEAD) : Dies run key after <-> Dies run key world := by
  have both : forall {old draft : OutboxMessageModel}, (world.cell .outbox_messages key).visible run = some old ->
      old.status ≠ .DEAD -> (after.cell .outbox_messages key).lock = some (run, some draft) -> draft.status ≠ .DEAD ->
      (Dies run key after <-> Dies run key world) :=
    fun seen living locked lives => iff_of_false (fun dies => lives ((dies_of_lock locked).mp dies))
      (not_dies_of_visible seen living)
  cases executed.cell .outbox_messages key with
  | kept same => exact dies_of_cell same
  | locked query limit seen operation => exact absurd operation (permits.unlocked query limit)
  | updated statement time seen operation visible selected free changed =>
      have living : seen.status ≠ .DEAD := fun dead => unsettled_of_condition selected
        (fun now worker_id same => permits.proper.updated now worker_id (same ▸ operation)) (.inr dead)
      exact both visible living (congrArg Cell.lock changed) (alive statement seen time operation visible selected)
  | claimed query limit statement time seen operation visible selected free changed =>
      rcases permits.proper.claimed query limit statement operation with ⟨now, worker_id, rfl⟩
      have pending := unsettled_of_claimable selected
      exact both visible (by rw [pending]; exact fun impossible => by cases impossible) (congrArg Cell.lock changed)
        (fun impossible => by cases impossible)
  | deleted cutoff seen operation table => exact absurd operation (purges cutoff)
  | added row operation own vacant changed =>
      rcases permits.proper.added row operation with ⟨id, event, rfl⟩
      refine iff_of_false (fun dies => ?_) ?_
      · have dead := (dies_of_lock (congrArg Cell.lock changed)).mp dies
        cases dead
      · rintro ⟨draft, locked, _⟩
        rw [vacant] at locked
        cases locked
  | inserted row operation table => cases table
  | committed operation changed => exact absurd operation ends.1
  | released operation changed => exact absurd operation (not_or.mpr ends.2)

/-- The identifiers of the rows that an update returns. -/
theorem mem_update_ids {statement : Update .outbox_messages} {rows : List OutboxMessageModel} {key : UUID}
    (keyed : World.Keyed world) (executed : World.Executed run world (.update .outbox_messages statement) after (.ok rows)) :
    key ∈ rows.map OutboxMessageModel.id <-> Exists fun row =>
      (world.cell .outbox_messages key).visible run = some row ∧ statement.condition row = true := by
  cases executed with
  | updated name statement time table rows changed accepting storable =>
      rw [List.mem_map]
      constructor
      · rintro ⟨row, member, rfl⟩
        rcases (Table.mem_update_rows changed).mp member with ⟨found, old, seen, selected, rfl⟩
        have own : old.id = found := keyed .outbox_messages found old (Cell.carries_of_visible seen)
        have named : OutboxMessageModel.id (statement.values time old) = found :=
          (Update.id_values statement time old).trans own
        rw [named]
        exact ⟨old, seen, selected⟩
      · rintro ⟨old, seen, selected⟩
        refine ⟨statement.values time old, (Table.mem_update_rows changed).mpr ⟨key, old, seen, selected, rfl⟩, ?_⟩
        exact (Update.id_values statement time old).trans
          (keyed .outbox_messages key old (Cell.carries_of_visible seen))

/-- An update that writes every row it selects as dead. -/
theorem dies_updated {statement : Update .outbox_messages} {rows : List OutboxMessageModel} {key : UUID}
    (keyed : World.Keyed world) (executed : World.Executed run world (.update .outbox_messages statement) after (.ok rows))
    (kills : forall row time, (world.cell .outbox_messages key).visible run = some row ->
      statement.condition row = true -> (statement.values time row).status = .DEAD) :
    Dies run key after <-> Dies run key world ∨ key ∈ rows.map OutboxMessageModel.id := by
  rw [mem_update_ids keyed executed]
  cases executed with
  | updated name statement time table rows changed accepting storable =>
      have cell : (World.note (.run run) (.updated .outbox_messages statement rows)
          (world.set_table .outbox_messages table)).cell .outbox_messages key = table.cell key := by
        rw [World.cell_note, World.cell_set_table_self]
      rw [Dies, cell]
      cases Table.update_touched changed key with
      | kept unselected same =>
          rw [same]
          refine ⟨.inl, fun found => found.elim id ?_⟩
          rintro ⟨row, seen, selected⟩
          rw [unselected row seen] at selected
          cases selected
      | written old seen selected free same =>
          refine iff_of_true ⟨statement.values time old, congrArg Cell.lock same, kills old time seen selected⟩ ?_
          exact .inr ⟨old, seen, selected⟩

/-- The rows of an update have different identifiers. -/
theorem update_ids_nodup {statement : Update .outbox_messages} {rows : List OutboxMessageModel}
    (keyed : World.Keyed world) (executed : World.Executed run world (.update .outbox_messages statement) after (.ok rows)) :
    (rows.map OutboxMessageModel.id).Nodup := by
  cases executed with
  | updated name statement time table rows changed accepting storable =>
      have values : rows.map OutboxMessageModel.id =
          ((world.tables .outbox_messages).select run statement.condition).map OutboxMessageModel.id := by
        rw [Table.update_rows changed, List.map_map]
        exact List.map_congr_left (fun row _ => Update.id_values statement time row)
      rw [values]
      exact Table.select_keys_nodup (fun key row seen =>
        keyed .outbox_messages key row (Cell.carries_of_visible seen))

/-! ## Steps of a run -/

/-- A row that dies in the transaction is not settled yet, after any operation but a commit. -/
theorem Balanced.fresh_executed (balanced : Balanced run world) (rows : RowsKept world)
    (permits : LeasePermits deployment run op world) {answer : Except Error op.Answer}
    (executed : World.Executed run world op after answer) (not_commit : op ≠ .commit)
    (key : UUID) (row : OutboxMessageModel) (dies : Dies run key after)
    (committed : (after.cell .outbox_messages key).committed = some row) : ¬ settled row := by
  have before : (world.cell .outbox_messages key).committed = some row :=
    ((executed.cell .outbox_messages key).committed_same not_commit).symm.trans committed
  rcases dies with ⟨draft, locked, dead⟩
  cases executed.cell .outbox_messages key with
  | kept same => exact balanced.fresh key row ⟨draft, same ▸ locked, dead⟩ before
  | locked query limit seen operation visible selected free changed =>
      exact absurd operation (permits.unlocked query limit)
  | updated statement time seen operation visible selected free changed =>
      intro ended
      cases rows.seen before ended visible
      exact unsettled_of_change permits.proper operation selected ended
  | claimed query limit statement time seen operation visible selected free changed =>
      intro ended
      cases rows.seen before ended visible
      exact not_settled_of_claimable selected ended
  | deleted cutoff seen operation table visible selected free changed =>
      rw [changed] at locked
      cases locked
  | added found operation own vacant changed =>
      rw [vacant] at before
      cases before
  | inserted found operation table => cases table
  | committed operation changed => exact absurd operation not_commit
  | released operation changed =>
      rw [changed] at locked
      exact absurd ⟨_, locked⟩ Cell.not_heldBy_rollback

/-- An event that neither counts nor writes nor ends anything. -/
theorem Balanced.plain {event : Event} (balanced : Balanced run world)
    (fresh : forall key row, Dies run key after -> (after.cell .outbox_messages key).committed = some row ->
      ¬ settled row) (own : after.own run = event :: world.own run)
    (unreleased : released (world.own run) = []) (gains : gain_event event (world.own run) = [])
    (opened : open_ids (event :: world.own run) = open_ids (world.own run))
    (dead : dead_ids (event :: world.own run) = dead_ids (world.own run))
    (releases : released (event :: world.own run) = [])
    (dies : forall key, Dies run key after <-> Dies run key world) : Balanced run after where
  counted := by
    rw [own, counted_ids, gains, opened, dead]
    exact balanced.counted
  nodup := by
    rw [own, opened, releases, ← unreleased]
    exact balanced.nodup
  drafts := by
    intro key
    rw [own, opened, releases, ← unreleased]
    exact (dies key).trans (balanced.drafts key)
  fresh := fresh

/-- An event that counts or releases the rows of an update that writes them as dead. -/
theorem Balanced.writes {event : Event} {ids : List UUID} (balanced : Balanced run world)
    (fresh : forall key row, Dies run key after -> (after.cell .outbox_messages key).committed = some row ->
      ¬ settled row) (own : after.own run = event :: world.own run)
    (unreleased : released (world.own run) = [])
    (opened : open_ids (event :: world.own run) = gain_event event (world.own run) ++ open_ids (world.own run))
    (dead : dead_ids (event :: world.own run) = dead_ids (world.own run))
    (listed : gain_event event (world.own run) ++ released (event :: world.own run) = ids) (nodup : ids.Nodup)
    (living : forall key, key ∈ ids -> ¬ Dies run key world)
    (dies : forall key, Dies run key after <-> Dies run key world ∨ key ∈ ids) : Balanced run after := by
  have before : forall key, Dies run key world <-> key ∈ open_ids (world.own run) := by
    intro key
    rw [balanced.drafts key, unreleased, List.append_nil]
  have both : (open_ids (after.own run) ++ released (after.own run)).Perm (open_ids (world.own run) ++ ids) := by
    rw [own, opened, ← listed, ← List.append_assoc]
    exact List.perm_append_comm.append_right _
  refine ⟨?_, ?_, fun key => ?_, fresh⟩
  · rw [own, counted_ids, opened, dead, List.append_assoc]
    exact balanced.counted.append_left _
  · rw [both.nodup_iff]
    have single : (open_ids (world.own run)).Nodup := List.Nodup.of_append_left balanced.nodup
    exact single.append nodup (fun key member written => living key written ((before key).mpr member))
  · rw [both.mem_iff, List.mem_append, dies key, before key]

/-- The released rows are counted. -/
theorem Balanced.counts_released {event : Event} (balanced : Balanced run world)
    (fresh : forall key row, Dies run key after -> (after.cell .outbox_messages key).committed = some row ->
      ¬ settled row) (own : after.own run = event :: world.own run)
    (gains : gain_event event (world.own run) = released (world.own run))
    (opened : open_ids (event :: world.own run) = gain_event event (world.own run) ++ open_ids (world.own run))
    (dead : dead_ids (event :: world.own run) = dead_ids (world.own run))
    (releases : released (event :: world.own run) = [])
    (dies : forall key, Dies run key after <-> Dies run key world) : Balanced run after := by
  have both : (open_ids (after.own run) ++ released (after.own run)).Perm
      (open_ids (world.own run) ++ released (world.own run)) := by
    rw [own, opened, gains, releases, List.append_nil]
    exact List.perm_append_comm
  refine ⟨?_, ?_, fun key => ?_, fresh⟩
  · rw [own, counted_ids, opened, dead, List.append_assoc]
    exact balanced.counted.append_left _
  · exact both.nodup_iff.mpr balanced.nodup
  · rw [dies key, balanced.drafts key, both.mem_iff]

/-- The end of a transaction in which nothing has been counted since. -/
theorem Balanced.ended {own : List Event} (balanced : Balanced run world) (kept : after.own run = own)
    (counted : counted_ids own = counted_ids (world.own run)) (closed : open_ids (world.own run) = [])
    (opened : open_ids own = []) (releases : released own = [])
    (dead : dead_ids own = dead_ids (world.own run)) (free : forall key, ¬ Dies run key after) :
    Balanced run after := by
  refine ⟨?_, ?_, fun key => ?_, fun key row dies => absurd dies (free key)⟩
  · rw [kept, counted, opened, dead]
    have before := balanced.counted
    rw [closed] at before
    exact before
  · rw [kept, opened, releases]
    exact List.nodup_nil
  · rw [kept, opened, releases]
    exact iff_of_false (free key) List.not_mem_nil

/-- A commit moves what was open to what is dead. -/
theorem Balanced.committed (balanced : Balanced run world) (unreleased : released (world.own run) = []) :
    Balanced run (world.commit run) := by
  have own : (world.commit run).own run = .committed (world.record run) :: world.own run := by
    rw [World.commit, World.own_note_self]
    rfl
  have free : forall key, ¬ Dies run key (world.commit run) := by
    rintro key ⟨draft, locked, _⟩
    exact Cell.not_heldBy_commit ⟨_, locked⟩
  have same : (open_ids (world.own run)).Perm (died (world.record run)) := by
    have single : (open_ids (world.own run)).Nodup := List.Nodup.of_append_left balanced.nodup
    refine (List.perm_ext_iff_of_nodup single died_nodup).mpr (fun key => ?_)
    rw [mem_died, balanced.drafts key, unreleased, List.append_nil]
  refine ⟨?_, ?_, fun key => ?_, fun key row dies => absurd dies (free key)⟩
  · rw [own]
    exact balanced.counted.trans (same.append_right _)
  · rw [own]
    exact List.nodup_nil
  · rw [own]
    exact iff_of_false (free key) List.not_mem_nil

/-- What an update of the outbox returns, it has also recorded. -/
theorem outbox_update_recorded {statement : Update .outbox_messages} {rows : List OutboxMessageModel}
    (executed : World.Executed run world (.update .outbox_messages statement) after (.ok rows)) :
    after.trace = (.run run, .updated .outbox_messages statement rows) :: world.trace ∧
      after.own run = .updated .outbox_messages statement rows :: world.own run := by
  cases executed with
  | updated name statement time table rows changed accepting storable =>
      refine ⟨rfl, ?_⟩
      rw [World.own_note_self]
      rfl

/-- A worker that marks a failure decides as the statement does. -/
theorem status_of_failing {message_id worker_id : UUID} {limit : Int} {next_retry_at : Option Datetime}
    {key : UUID} {row : OutboxMessageModel} {time : Datetime} (keyed : World.Keyed world)
    (permits : LeasePermits deployment run
      (.update .outbox_messages (.mark_publish_failure message_id worker_id limit next_retry_at)) world)
    (seen : (world.cell .outbox_messages key).visible run = some row)
    (selected : (Update.mark_publish_failure message_id worker_id limit next_retry_at).condition row = true) :
    ((Update.mark_publish_failure message_id worker_id limit next_retry_at).values time row :
      OutboxMessageModel).status = .DEAD <-> next_retry_at = none := by
  have own : row.id = key := keyed .outbox_messages key row (Cell.carries_of_visible seen)
  simp only [Update.condition, Update.owned, Bool.and_eq_true, decide_eq_true_eq] at selected
  rcases selected with ⟨⟨named, processing⟩, claimed_by⟩
  have same : message_id = key := named.symm.trans own
  subst same
  rcases permits.failing message_id worker_id limit next_retry_at rfl with ⟨rfl, fenced⟩
  have decided := (fenced row ⟨seen, processing, claimed_by⟩).2.2
  rw [decided]
  change (if Update.exceeded row limit then OutboxStatus.DEAD else .PENDING) = .DEAD <-> limit ≤ row.attempts
  by_cases reached : limit ≤ row.attempts
  · simp [Update.exceeded, reached]
  · simp [Update.exceeded, reached]

/-- A mark whose row is still owned returns this row alone. -/
theorem marked_ids {message_id worker_id : UUID} {limit : Int} {next_retry_at : Option Datetime}
    {rows : List OutboxMessageModel} (keyed : World.Keyed world)
    (executed : World.Executed run world
      (.update .outbox_messages (.mark_publish_failure message_id worker_id limit next_retry_at)) after (.ok rows))
    (worker : worker_id = run) (owned : Exists fun row => Owns run message_id row world) :
    rows.map OutboxMessageModel.id = [message_id] := by
  rcases owned with ⟨row, owns⟩
  have only : forall key, key ∈ rows.map OutboxMessageModel.id <-> key = message_id := by
    intro key
    rw [mem_update_ids keyed executed]
    constructor
    · rintro ⟨found, seen, selected⟩
      simp only [Update.condition, Update.owned, Bool.and_eq_true, decide_eq_true_eq] at selected
      exact (keyed .outbox_messages key found (Cell.carries_of_visible seen)).symm.trans selected.1.1
    · rintro rfl
      refine ⟨row, owns.seen, ?_⟩
      have own : row.id = key := keyed .outbox_messages key row (Cell.carries_of_visible owns.seen)
      simp only [Update.condition, Update.owned, Bool.and_eq_true, decide_eq_true_eq]
      exact ⟨⟨own, owns.status⟩, worker ▸ owns.claimed_by⟩
  refine List.perm_singleton.mp ((List.perm_ext_iff_of_nodup (update_ids_nodup keyed executed)
    (List.nodup_singleton _)).mpr (fun key => ?_))
  rw [only key, List.mem_singleton]

/-- An update of the outbox that has returned keeps the balance. -/
theorem Balanced.updated {statement : Update .outbox_messages} {rows : List OutboxMessageModel}
    (balanced : Balanced run world) (kept : LeasesKept deployment world)
    (permits : LeasePermits deployment run (.update .outbox_messages statement) world)
    (tallies : Tallies (.update .outbox_messages statement) (world.own run)) (accounted : Accounted world after)
    (executed : World.Executed run world (.update .outbox_messages statement) after (.ok rows)) :
    Balanced run after := by
  have fresh := balanced.fresh_executed kept.rows permits executed (fun impossible => by cases impossible)
  rcases outbox_update_recorded executed with ⟨trace, own⟩
  have not_claim : forall now worker_id, statement ≠ .claim now worker_id :=
    fun now worker_id same => permits.proper.updated now worker_id (same ▸ rfl)
  -- Only the count of the released rows may follow their release.
  have unreleased : (forall cutoff limit, statement ≠ .release_to_pending cutoff limit) ->
      released (world.own run) = [] := by
    intro different
    by_contra releases
    rcases tallies.released releases with impossible | ⟨cutoff, limit, same⟩
    · cases impossible
    · cases same
      exact different cutoff limit rfl
  have living : forall key, key ∈ rows.map OutboxMessageModel.id -> ¬ Dies run key world := by
    intro key listed
    rcases (mem_update_ids kept.keyed executed).mp listed with ⟨row, seen, selected⟩
    exact not_dies_of_visible seen (fun dead => unsettled_of_condition selected not_claim (.inr dead))
  have nodup := update_ids_nodup kept.keyed executed
  have same : (forall row time key, (world.cell .outbox_messages key).visible run = some row ->
      statement.condition row = true -> (statement.values time row).status ≠ .DEAD) ->
      forall key, Dies run key after <-> Dies run key world := by
    intro alive key
    refine dies_executed permits executed ⟨nofun, nofun, nofun⟩ (fun cutoff => nofun) ?_
    intro found row time operation seen selected
    cases operation
    exact alive row time key seen selected
  cases statement with
  | claim now worker_id => exact absurd rfl (not_claim now worker_id)
  | mark_processed message_id worker_id =>
      exact balanced.plain fresh own (unreleased (fun _ _ => nofun)) rfl rfl rfl rfl
        (same (fun row time key seen selected => nofun))
  | release_to_dead cutoff limit =>
      exact balanced.writes fresh own (unreleased (fun _ _ => nofun)) rfl rfl rfl nodup living
        (fun key => dies_updated kept.keyed executed (fun row time seen selected => rfl))
  | release_to_pending cutoff limit =>
      exact balanced.counts_released fresh own rfl rfl rfl rfl (same (fun row time key seen selected => nofun))
  | reap_exhausted limit =>
      have none := accounted.unreaped run limit rows trace
      subst none
      refine balanced.plain fresh own (unreleased (fun _ _ => nofun)) rfl rfl rfl rfl (fun key => ?_)
      rw [dies_updated kept.keyed executed (fun row time seen selected => rfl)]
      exact or_iff_left List.not_mem_nil
  | mark_publish_failure message_id worker_id limit next_retry_at =>
      have worker : worker_id = run := (permits.failing message_id worker_id limit next_retry_at rfl).1
      cases next_retry_at with
      | some time =>
          refine balanced.plain fresh own (unreleased (fun _ _ => nofun)) rfl rfl rfl rfl
            (same (fun row now key seen selected dead => ?_))
          cases (status_of_failing kept.keyed permits seen selected).mp dead
      | none =>
          have ids := marked_ids kept.keyed executed worker
            (accounted.found run message_id worker_id limit rows trace)
          refine balanced.writes fresh own (unreleased (fun _ _ => nofun)) rfl rfl (ids ▸ rfl) nodup living
            (fun key => dies_updated kept.keyed executed (fun row time seen selected => ?_))
          exact (status_of_failing kept.keyed permits seen selected).mpr rfl

/-- After the end of its transaction a run has no row that dies. -/
theorem not_dies_of_rollback {key : UUID}
    (cell : after.cell .outbox_messages key = (world.cell .outbox_messages key).rollback run) : ¬ Dies run key after := by
  rintro ⟨draft, locked, _⟩
  rw [cell] at locked
  exact Cell.not_heldBy_rollback ⟨_, locked⟩

/-- An operation that records nothing either closes the session or leaves the
rows that die in the transaction as they are. -/
theorem dies_silent {answer : Except Error op.Answer} (permits : LeasePermits deployment run op world)
    (executed : World.Executed run world op after answer) (silent : after.own run = world.own run)
    (open_ended : op ≠ .close) (key : UUID) : Dies run key after <-> Dies run key world := by
  have noted : forall {event : Event} {before : World}, before.own run = world.own run ->
      (World.note (.run run) event before).own run = world.own run -> False := by
    intro event before same impossible
    rw [World.own_note_self, same] at impossible
    exact List.cons_ne_self _ _ impossible
  cases executed.cell .outbox_messages key with
  | kept same => exact dies_of_cell same
  | locked query limit seen operation => exact absurd operation (permits.unlocked query limit)
  | updated statement time seen operation =>
      subst operation
      cases executed with
      | raised => exact Iff.rfl
      | updated => exact (noted rfl silent).elim
  | claimed query limit statement time seen operation =>
      subst operation
      cases executed with
      | raised => exact Iff.rfl
      | claimed => exact (noted rfl silent).elim
  | deleted cutoff seen operation =>
      subst operation
      cases executed with
      | raised => exact Iff.rfl
      | deleted => exact (noted rfl silent).elim
  | added row operation own vacant changed =>
      refine dies_executed permits executed (operation ▸ ⟨nofun, nofun, nofun⟩) (operation ▸ fun cutoff => nofun)
        (operation ▸ fun statement row time => nofun)
  | inserted row operation table => cases table
  | committed operation =>
      subst operation
      cases executed with
      | raised => exact Iff.rfl
      | committed => exact (noted rfl silent).elim
  | released operation =>
      rcases operation with operation | operation
      · subst operation
        cases executed with
        | raised => exact Iff.rfl
        | rolled_back => exact (noted rfl silent).elim
      · exact absurd operation open_ended

/-- Nothing that the last statement has released waits to be counted. -/
theorem Tallies.unreleased (tallies : Tallies op (world.own run)) (not_rollback : op ≠ .rollback)
    (not_pending : forall cutoff limit, op ≠ .update .outbox_messages (.release_to_pending cutoff limit)) :
    Properties.released (world.own run) = [] := by
  by_contra releases
  rcases tallies.released releases with rolls | ⟨cutoff, limit, pending⟩
  · exact not_rollback rolls
  · exact not_pending cutoff limit pending

/-- A run that has neither released nor counted anything has no row that dies. -/
theorem Balanced.free (balanced : Balanced run world) (closed : open_ids (world.own run) = [])
    (releases : released (world.own run) = []) (key : UUID) : ¬ Dies run key world := by
  rw [balanced.drafts key, closed, releases]
  exact List.not_mem_nil

/-- An operation that records nothing keeps the balance. -/
theorem Balanced.silent {answer : Except Error op.Answer} (balanced : Balanced run world)
    (kept : LeasesKept deployment world) (permits : LeasePermits deployment run op world)
    (tallies : Tallies op (world.own run)) (executed : World.Executed run world op after answer)
    (silent : after.own run = world.own run) : Balanced run after := by
  by_cases closes : op = .close
  · subst closes
    have closed : open_ids (world.own run) = [] := by
      by_contra opened
      exact (tallies.opened opened).1 rfl
    have releases := tallies.unreleased nofun (fun _ _ => nofun)
    refine balanced.ended silent rfl closed closed releases rfl (fun key dies => ?_)
    cases executed with
    | raised => exact balanced.free closed releases key dies
    | closed => exact not_dies_of_rollback rfl dies
  · by_cases commits : op = .commit
    · subst commits
      rcases executed.commit_cases with rfl | rfl
      · exact balanced
      · rw [World.commit, World.own_note_self] at silent
        exact absurd silent (List.cons_ne_self _ _)
    · refine ⟨silent ▸ balanced.counted, silent ▸ balanced.nodup, fun key => ?_,
        balanced.fresh_executed kept.rows permits executed commits⟩
      rw [silent, dies_silent permits executed silent closes key]
      exact balanced.drafts key

/-- A purge selects no row that dies in the transaction, as there is none. -/
theorem Balanced.purged {cutoff : Datetime} {answer : Except Error Unit} (balanced : Balanced run world)
    (closed : open_ids (world.own run) = []) (releases : released (world.own run) = [])
    (executed : World.Executed run world (.delete_finished cutoff) after answer) (key : UUID) : ¬ Dies run key after := by
  cases executed.cell .outbox_messages key with
  | kept same => exact fun dies => balanced.free closed releases key ((dies_of_cell same).mp dies)
  | deleted found row operation table seen selected free changed =>
      rintro ⟨draft, locked, _⟩
      rw [changed] at locked
      cases locked
  | locked query limit row operation => cases operation
  | updated statement time row operation => cases operation
  | claimed query limit statement time row operation => cases operation
  | added row operation => cases operation
  | inserted row operation => cases operation
  | committed operation => cases operation
  | released operation =>
      rcases operation with impossible | impossible
      · cases impossible
      · cases impossible

/-- An operation that records an event keeps the balance. -/
theorem Balanced.recorded {answer : Except Error op.Answer} {event : Event} (balanced : Balanced run world)
    (kept : LeasesKept deployment world) (permits : LeasePermits deployment run op world)
    (tallies : Tallies op (world.own run)) (accounted : Accounted world after)
    (executed : World.Executed run world op after answer) (records : World.Records run world op event)
    (trace : after.trace = (.run run, event) :: world.trace) : Balanced run after := by
  have own : after.own run = event :: world.own run := own_of_trace trace
  -- Most operations have nothing to do with dead messages.
  have quiet : (op ≠ .commit ∧ op ≠ .rollback ∧ op ≠ .close) -> (forall cutoff, op ≠ .delete_finished cutoff) ->
      (forall statement, op ≠ .update .outbox_messages statement) -> gain_event event (world.own run) = [] ->
      open_ids (event :: world.own run) = open_ids (world.own run) ->
      dead_ids (event :: world.own run) = dead_ids (world.own run) ->
      released (event :: world.own run) = [] -> Balanced run after :=
    fun ends purges updates gains opened dead releases =>
      balanced.plain (balanced.fresh_executed kept.rows permits executed ends.1) own
        (tallies.unreleased ends.2.1 (fun cutoff limit => updates _)) gains opened dead releases
        (fun key => dies_executed permits executed ends purges
          (fun statement row time operation => absurd operation (updates statement)))
  cases records with
  | updated name statement rows =>
      cases name with
      | outbox_messages =>
          cases executed with
          | raised =>
              exact absurd (congrArg List.length trace) (by rw [List.length_cons]; exact Nat.ne_of_lt (Nat.lt_succ_self _))
          | updated name statement time table found changed accepting storable =>
              exact balanced.updated kept permits tallies accounted
                (.updated .outbox_messages statement time table found changed accepting storable)
      | _ => exact quiet ⟨nofun, nofun, nofun⟩ (fun _ => nofun) (fun _ => nofun) rfl rfl rfl rfl
  | purged cutoff =>
      have closed : open_ids (world.own run) = [] := by
        by_contra opened
        exact (tallies.opened opened).2 cutoff rfl
      exact balanced.ended own rfl closed closed rfl rfl
        (balanced.purged closed (tallies.unreleased nofun (fun _ _ => nofun)) executed)
  | committed =>
      rcases executed.commit_cases with rfl | rfl
      · exact balanced
      · exact balanced.committed (tallies.unreleased nofun (fun _ _ => nofun))
  | rolled_back =>
      refine balanced.ended own rfl (accounted.kept run trace) rfl rfl rfl (fun key dies => ?_)
      cases executed with
      | raised =>
          exact absurd (congrArg List.length trace) (by rw [List.length_cons]; exact Nat.ne_of_lt (Nat.lt_succ_self _))
      | rolled_back => exact not_dies_of_rollback rfl dies
  | _ => exact quiet ⟨nofun, nofun, nofun⟩ (fun _ => nofun) (fun _ => nofun) rfl rfl rfl rfl

/-- Every operation of the run itself keeps the balance. -/
theorem Balanced.executed {answer : Except Error op.Answer} (balanced : Balanced run world)
    (kept : LeasesKept deployment world) (permits : LeasePermits deployment run op world)
    (tallies : Tallies op (world.own run)) (accounted : Accounted world after)
    (executed : World.Executed run world op after answer) : Balanced run after := by
  rcases executed.trace with silent | ⟨event, records, trace⟩
  · exact balanced.silent kept permits tallies executed (own_of_same silent)
  · exact balanced.recorded kept permits tallies accounted executed records trace

theorem Balanced.crash (balanced : Balanced run world) (accounted : Accounted world (world.crash run)) :
    Balanced run (world.crash run) :=
  balanced.ended (World.own_crash) rfl (accounted.kept run World.crash_trace) rfl rfl rfl
    (fun key => not_dies_of_rollback (World.crash_cell .outbox_messages key))

/-- What leaves the transaction and the events of the run alone keeps its balance. -/
theorem Balanced.frame (balanced : Balanced run world) (untouched : World.Untouched run world after) :
    Balanced run after := by
  have held : forall key, Dies run key world ∨ Dies run key after ->
      after.cell .outbox_messages key = world.cell .outbox_messages key := by
    rintro key (⟨draft, locked, _⟩ | ⟨draft, locked, _⟩)
    · exact untouched.tables .outbox_messages key (.inl ⟨_, locked⟩)
    · exact untouched.tables .outbox_messages key (.inr ⟨_, locked⟩)
  have same : forall key, Dies run key after <-> Dies run key world :=
    fun key => ⟨fun dies => (dies_of_cell (held key (.inr dies))).mp dies,
      fun dies => (dies_of_cell (held key (.inl dies))).mpr dies⟩
  refine ⟨untouched.own ▸ balanced.counted, untouched.own ▸ balanced.nodup, fun key => ?_, fun key row dies committed => ?_⟩
  · rw [untouched.own, same key]
    exact balanced.drafts key
  · rw [held key (.inr dies)] at committed
    exact balanced.fresh key row ((same key).mp dies) committed

/-! ## A row dies once -/

/-- Rows that a committed transaction has moved to dead stay dead, and no
transaction has moved them there before. -/
structure Buried (world : World) : Prop where
  dead : forall run key, key ∈ dead_ids (world.own run) ->
    (Exists fun row => (world.cell .outbox_messages key).committed = some row ∧ row.status = .DEAD) ∨ Gone world key
  once : forall run, (dead_ids (world.own run)).Nodup
  apart : forall run other key, key ∈ dead_ids (world.own run) -> key ∈ dead_ids (world.own other) -> run = other

theorem buried_initially : Buried World.initial where
  dead := fun _ _ listed => (List.not_mem_nil listed).elim
  once := fun _ => List.nodup_nil
  apart := fun _ _ _ listed => (List.not_mem_nil listed).elim

theorem Buried.kept (buried : Buried world) (evolves : RowsEvolve world after)
    (same : forall run, dead_ids (after.own run) = dead_ids (world.own run)) : Buried after where
  dead := by
    intro run key listed
    rw [same run] at listed
    rcases buried.dead run key listed with ⟨row, committed, dead⟩ | gone
    · exact (evolves.settled key row committed (.inr dead)).imp_left (fun committed => ⟨row, committed, dead⟩)
    · exact .inr (evolves.gone key gone)
  once := fun run => same run ▸ buried.once run
  apart := by
    intro run other key
    rw [same run, same other]
    exact buried.apart run other key

/-- What a transaction is about to move to dead has not been there. -/
theorem Buried.unburied (buried : Buried world) (balanced : Balanced run world) {key : UUID}
    (dies : Dies run key world) (other : RunId) : key ∉ dead_ids (world.own other) := by
  intro listed
  rcases buried.dead other key listed with ⟨row, committed, dead⟩ | gone
  · exact balanced.fresh key row dies committed (.inr dead)
  · rcases dies with ⟨draft, locked, _⟩
    rw [gone.2] at locked
    cases locked

theorem Buried.committed (buried : Buried world) (balanced : Balanced run world)
    (evolves : RowsEvolve world (world.commit run)) : Buried (world.commit run) := by
  have mine : (world.commit run).own run = .committed (world.record run) :: world.own run := by
    rw [World.commit, World.own_note_self]
    rfl
  have others : forall other, other ≠ run -> (world.commit run).own other = world.own other :=
    fun other different => (World.untouched_commit different).own
  -- An identifier is new in the record, or it has been listed before.
  have listed : forall other key, key ∈ dead_ids ((world.commit run).own other) ->
      (other = run ∧ Dies run key world) ∨ key ∈ dead_ids (world.own other) := by
    intro other key member
    by_cases same : other = run
    · subst same
      rw [mine, dead_ids, List.mem_append, mem_died] at member
      exact member.imp_left (fun dies => ⟨rfl, dies⟩)
    · exact .inr (others other same ▸ member)
  refine ⟨fun other key member => ?_, fun other => ?_, fun first second key one two => ?_⟩
  · rcases listed other key member with ⟨_, draft, locked, dead⟩ | before
    · refine .inl ⟨draft, ?_, dead⟩
      have committed : ((world.cell .outbox_messages key).commit run).committed = some draft := by
        rw [Cell.commit_of_lock locked]
      exact committed
    · rcases buried.dead other key before with ⟨row, committed, dead⟩ | gone
      · exact (evolves.settled key row committed (.inr dead)).imp_left (fun committed => ⟨row, committed, dead⟩)
      · exact .inr (evolves.gone key gone)
  · by_cases same : other = run
    · subst same
      rw [mine, dead_ids]
      exact died_nodup.append (buried.once other)
        (fun key new => buried.unburied balanced (mem_died.mp new) other)
    · exact others other same ▸ buried.once other
  · rcases listed first key one with ⟨rfl, dies⟩ | before
    · rcases listed second key two with ⟨same, _⟩ | again
      · exact same.symm
      · exact absurd again (buried.unburied balanced dies second)
    · rcases listed second key two with ⟨rfl, dies⟩ | again
      · exact absurd before (buried.unburied balanced dies first)
      · exact buried.apart first second key before again

/-- Each message is counted once. -/
theorem Balanced.counted_nodup (balanced : Balanced run world) (buried : Buried world) :
    (counted_ids (world.own run)).Nodup := by
  rw [balanced.counted.nodup_iff]
  refine (List.Nodup.of_append_left balanced.nodup).append (buried.once run) (fun key opened => ?_)
  exact buried.unburied balanced ((balanced.drafts key).mpr (List.mem_append_left _ opened)) run

/-- No two workers count the same message. -/
theorem Balanced.counted_apart (balanced : Balanced run world) (balanced' : Balanced other world)
    (buried : Buried world) {key : UUID} (mine : key ∈ counted_ids (world.own run))
    (theirs : key ∈ counted_ids (world.own other)) : run = other := by
  have either : forall {worker : RunId}, Balanced worker world -> key ∈ counted_ids (world.own worker) ->
      Dies worker key world ∨ key ∈ dead_ids (world.own worker) := by
    intro worker balanced counted
    rw [balanced.counted.mem_iff, List.mem_append] at counted
    exact counted.imp_left (fun opened => (balanced.drafts key).mpr (List.mem_append_left _ opened))
  rcases either balanced mine with dies | dead
  · rcases either balanced' theirs with dies' | dead'
    · rcases dies with ⟨draft, locked, _⟩
      rcases dies' with ⟨draft', locked', _⟩
      exact Cell.HeldBy.unique ⟨_, locked⟩ ⟨_, locked'⟩
    · exact absurd dead' (buried.unburied balanced dies other)
  · rcases either balanced' theirs with dies' | dead'
    · exact absurd dead (buried.unburied balanced' dies' run)
    · exact buried.apart run other key dead dead'

/-! ## The beginning -/

theorem balanced_initially (run : RunId) : Balanced run World.initial where
  counted := .refl _
  nodup := List.nodup_nil
  drafts := by
    intro key
    refine iff_of_false ?_ List.not_mem_nil
    rintro ⟨draft, locked, _⟩
    cases locked
  fresh := by
    intro key row _ committed
    cases committed

end Properties
end Payments
