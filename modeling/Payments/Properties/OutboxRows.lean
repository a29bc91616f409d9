import Payments.Concurrency.RelyGuarantee
import Payments.Infrastructure.Frames
import Payments.Infrastructure.Repositories

namespace Payments
namespace Properties

open Concurrency Domain Infrastructure Prog UnitOfWork

/-!
# The representation of outbox rows

Seven repository operations write overlapping subsets of the columns of an
outbox row.  `Represented` says which combinations of columns they may leave
behind.  It is shown of every version of every row, committed or not, under any
sequence of these operations by any number of concurrent sessions.
-/

/-! ## The representation -/

/-- The bound that a claim has put on the attempts of the rows it selects. -/
def claim_limit : Event -> Option Int
  | .updated_claimable .outbox_messages (.claimable_messages _ max_attempts) _ _ => some max_attempts
  | _ => none

/-- Every `max_attempts` that a claim has used so far. -/
def limits_used (trace : List (Actor × Event)) : List Int :=
  trace.filterMap (fun entry => claim_limit entry.2)

def settled (row : OutboxMessageModel) : Prop :=
  row.status = .PROCESSED ∨ row.status = .DEAD

structure Represented (limits : List Int) (row : OutboxMessageModel) : Prop where
  claimed_at : row.claimed_at.isSome = true <-> row.status = .PROCESSING
  claimed_by : row.claimed_by.isSome = true <-> row.status = .PROCESSING
  finished_at : row.finished_at.isSome = true <-> settled row
  processed_at : row.processed_at.isSome = true <-> row.status = .PROCESSED
  dead_retry : row.status = .DEAD -> row.next_retry_at = none
  attempted : row.status = .PROCESSING ∨ row.status = .PROCESSED -> 1 ≤ row.attempts
  /-- The attempts never exceed the largest bound that has been used. -/
  bounded : row.attempts = 0 ∨ Exists fun limit => limit ∈ limits ∧ (row.attempts : Int) ≤ limit

theorem Represented.mono {limits more : List Int} {row : OutboxMessageModel}
    (represented : Represented limits row) (used : forall limit, limit ∈ limits -> limit ∈ more) :
    Represented more row := by
  refine { represented with bounded := ?_ }
  rcases represented.bounded with zero | ⟨limit, listed, below⟩
  · exact .inl zero
  · exact .inr ⟨limit, used limit listed, below⟩

theorem represented_of_event (limits : List Int) (id : UUID) (event : DomainEvent) :
    Represented limits (OutboxMessageModel.of_event id event) where
  claimed_at := by simp [OutboxMessageModel.of_event]
  claimed_by := by simp [OutboxMessageModel.of_event]
  finished_at := by simp [OutboxMessageModel.of_event, settled]
  processed_at := by simp [OutboxMessageModel.of_event]
  dead_retry := fun _ => rfl
  attempted := by simp [OutboxMessageModel.of_event]
  bounded := .inl rfl

/-- No update selects a settled row. -/
theorem unsettled_of_condition {statement : Update .outbox_messages} {row : OutboxMessageModel}
    (selected : statement.condition row = true)
    (not_claim : forall now worker_id, statement ≠ .claim now worker_id) : ¬ settled row := by
  rintro (processed | dead)
  · cases statement with
    | claim now worker_id => exact not_claim now worker_id rfl
    | _ => simp [Update.condition, Update.expired, Update.owned, processed] at selected
  · cases statement with
    | claim now worker_id => exact not_claim now worker_id rfl
    | _ => simp [Update.condition, Update.expired, Update.owned, dead] at selected

theorem unsettled_of_claimable {query : Query .outbox_messages} {row : OutboxMessageModel}
    (selected : query.condition row = true) : row.status = .PENDING := by
  cases query with
  | claimable_messages now max_attempts =>
      simp only [Query.condition, Bool.and_eq_true, decide_eq_true_eq] at selected
      exact selected.1.1.1

/-- An update other than a claim keeps the representation of the row. -/
theorem Represented.updated {limits : List Int} {statement : Update .outbox_messages}
    {row : OutboxMessageModel} (represented : Represented limits row)
    (selected : statement.condition row = true)
    (not_claim : forall now worker_id, statement ≠ .claim now worker_id) (now : Datetime) :
    Represented limits (statement.values now row) := by
  have unprocessed : row.processed_at = none := by
    have pending := unsettled_of_condition selected not_claim
    rw [← Option.not_isSome_iff_eq_none, represented.processed_at]
    exact fun processed => pending (.inl processed)
  cases statement with
  | claim now worker_id => exact absurd rfl (not_claim now worker_id)
  | release_to_dead cutoff max_attempts =>
      exact ⟨by simp [Update.values], by simp [Update.values], by simp [Update.values, settled],
        by simp [Update.values, unprocessed], fun _ => rfl, by simp [Update.values], represented.bounded⟩
  | release_to_pending cutoff max_attempts =>
      have processing : row.status = .PROCESSING := by
        simp only [Update.condition, Update.expired, Bool.and_eq_true, decide_eq_true_eq] at selected
        exact selected.1.1
      have unfinished : row.finished_at = none := by
        rw [← Option.not_isSome_iff_eq_none, represented.finished_at]
        exact unsettled_of_condition selected not_claim
      exact ⟨by simp [Update.values], by simp [Update.values],
        by simp [Update.values, settled, unfinished], by simp [Update.values, unprocessed],
        by simp [Update.values], by simp [Update.values], represented.bounded⟩
  | mark_processed message_id worker_id =>
      have processing : row.status = .PROCESSING := by
        simp only [Update.condition, Update.owned, Bool.and_eq_true, decide_eq_true_eq] at selected
        exact selected.1.2
      exact ⟨by simp [Update.values], by simp [Update.values], by simp [Update.values, settled],
        by simp [Update.values], by simp [Update.values],
        fun _ => represented.attempted (.inl processing), represented.bounded⟩
  | mark_publish_failure message_id worker_id max_attempts next_retry_at =>
      cases reached : Update.exceeded row max_attempts with
      | true =>
          exact ⟨by simp [Update.values, reached], by simp [Update.values, reached],
            by simp [Update.values, settled, reached], by simp [Update.values, unprocessed, reached],
            by simp [Update.values, reached], by simp [Update.values, reached], represented.bounded⟩
      | false =>
          exact ⟨by simp [Update.values, reached], by simp [Update.values, reached],
            by simp [Update.values, settled, reached], by simp [Update.values, unprocessed, reached],
            by simp [Update.values, reached], by simp [Update.values, reached], represented.bounded⟩
  | reap_exhausted max_attempts =>
      have pending : row.status = .PENDING := by
        simp only [Update.condition, Bool.and_eq_true, decide_eq_true_eq] at selected
        exact selected.1
      have unclaimed_at : row.claimed_at = none := by
        rw [← Option.not_isSome_iff_eq_none, represented.claimed_at, pending]
        exact fun impossible => by cases impossible
      have unclaimed_by : row.claimed_by = none := by
        rw [← Option.not_isSome_iff_eq_none, represented.claimed_by, pending]
        exact fun impossible => by cases impossible
      exact ⟨by simp [Update.values, unclaimed_at], by simp [Update.values, unclaimed_by],
        by simp [Update.values, settled], by simp [Update.values, unprocessed], fun _ => rfl,
        by simp [Update.values], represented.bounded⟩

/-- A claim increments the attempts within its own bound. -/
theorem Represented.claimed {limits : List Int} {row : OutboxMessageModel} {at_time now : Datetime}
    {worker_id : UUID} {max_attempts : Int} (represented : Represented limits row)
    (selected : (Query.claimable_messages at_time max_attempts).condition row = true)
    (used : max_attempts ∈ limits) (time : Datetime) :
    Represented limits ((Update.claim now worker_id).values time row) := by
  simp only [Query.condition, Bool.and_eq_true, decide_eq_true_eq, Option.isNone_iff_eq_none] at selected
  rcases selected with ⟨⟨⟨pending, unprocessed⟩, below⟩, _⟩
  have unfinished : row.finished_at = none := by
    rw [← Option.not_isSome_iff_eq_none, represented.finished_at, settled, pending]
    rintro (impossible | impossible) <;> cases impossible
  refine ⟨by simp [Update.values], by simp [Update.values],
    by simp [Update.values, settled, unfinished], by simp [Update.values, unprocessed],
    by simp [Update.values], fun _ => Nat.le_add_left 1 row.attempts, .inr ⟨max_attempts, used, ?_⟩⟩
  simp only [Update.values, Nat.cast_add, Nat.cast_one]
  omega

/-! ## Steps keep the representation -/

/-- Rows come from events, are claimed through the claim query, and are not
claimed in any other way. -/
structure Proper (op : Op) : Prop where
  added : forall row, op = .add .outbox_messages row ->
    Exists fun id => Exists fun event => row = OutboxMessageModel.of_event id event
  updated : forall now worker_id, op ≠ .update .outbox_messages (.claim now worker_id)
  claimed : forall query limit statement, op = .update_claimable .outbox_messages query limit statement ->
    Exists fun now => Exists fun worker_id => statement = .claim now worker_id

structure RowsKept (world : World) : Prop where
  represented : forall key row, (world.cell .outbox_messages key).Carries row ->
    Represented (limits_used world.trace) row
  /-- A lock on a settled row can only come to delete it. -/
  guarded : forall key row holder draft, (world.cell .outbox_messages key).committed = some row ->
    settled row -> (world.cell .outbox_messages key).lock = some (holder, draft) ->
    draft = none ∨ draft = some row

/-- The row existed and is deleted. -/
def Gone (world : World) (key : UUID) : Prop :=
  key ∈ (world.tables .outbox_messages).keys ∧ world.cell .outbox_messages key = Cell.vacant

structure RowsEvolve (before after : World) : Prop where
  settled : forall key row, (before.cell .outbox_messages key).committed = some row -> settled row ->
    (after.cell .outbox_messages key).committed = some row ∨ Gone after key
  gone : forall key, Gone before key -> Gone after key

theorem RowsEvolve.refl (world : World) : RowsEvolve world world :=
  ⟨fun _ _ same _ => .inl same, fun _ gone => gone⟩

theorem RowsEvolve.trans {first second third : World} (before : RowsEvolve first second)
    (after : RowsEvolve second third) : RowsEvolve first third where
  settled := by
    intro key row same ended
    rcases before.settled key row same ended with kept | gone
    · exact after.settled key row kept ended
    · exact .inr (after.gone key gone)
  gone := fun key gone => after.gone key (before.gone key gone)

variable {world after : World} {run : RunId} {op : Op}

theorem limits_used_mono {trace : List (Actor × Event)} {entry : Actor × Event} {limit : Int}
    (used : limit ∈ limits_used trace) : limit ∈ limits_used (entry :: trace) := by
  rcases List.mem_filterMap.mp used with ⟨earlier, listed, same⟩
  exact List.mem_filterMap.mpr ⟨earlier, List.mem_cons_of_mem entry listed, same⟩

theorem limits_used_executed {answer : Except Error op.Answer}
    (executed : World.Executed run world op after answer) (limit : Int)
    (used : limit ∈ limits_used world.trace) : limit ∈ limits_used after.trace := by
  rcases executed.trace with same | ⟨event, _, same⟩
  · rwa [same]
  · rw [same]
    exact limits_used_mono used

theorem represented_executed {answer : Except Error op.Answer} (kept : RowsKept world) (proper : Proper op)
    (executed : World.Executed run world op after answer) {key : UUID} {row : OutboxMessageModel}
    (carried : (after.cell .outbox_messages key).Carries row) :
    Represented (limits_used after.trace) row := by
  have earlier : forall {row : OutboxMessageModel}, (world.cell .outbox_messages key).Carries row ->
      Represented (limits_used after.trace) row := by
    intro row before
    exact (kept.represented key row before).mono (limits_used_executed executed)
  rcases (executed.cell .outbox_messages key).carries carried with before | written
  · exact earlier before
  · cases written with
    | updated statement time old operation found selected same =>
        rw [same]
        refine (earlier (Cell.carries_of_visible found)).updated selected ?_ time
        rintro now worker_id rfl
        exact proper.updated now worker_id operation
    | claimed query limit statement time old operation found selected same =>
        rw [same]
        rcases proper.claimed query limit statement operation with ⟨now, worker_id, rfl⟩
        subst operation
        rcases executed.claim_recorded with rfl | ⟨rows, recorded⟩
        · exact same ▸ earlier carried
        · cases query with
          | claimable_messages at_time max_attempts =>
              refine (earlier (Cell.carries_of_visible found)).claimed selected ?_ time
              rw [recorded]
              exact List.mem_cons_self
    | added operation own =>
        rcases proper.added row operation with ⟨id, event, same⟩
        exact same ▸ represented_of_event _ id event
    | inserted new table => cases table

/-- A version that an update or a claim writes over is not settled. -/
theorem unsettled_of_change {statement : Update .outbox_messages} {row : OutboxMessageModel}
    (proper : Proper op) (operation : op = .update .outbox_messages statement)
    (selected : statement.condition row = true) : ¬ settled row := by
  refine unsettled_of_condition selected ?_
  rintro now worker_id rfl
  exact proper.updated now worker_id operation

theorem not_settled_of_claimable {query : Query .outbox_messages} {row : OutboxMessageModel}
    (selected : query.condition row = true) : ¬ settled row := by
  rintro (processed | dead)
  · rw [unsettled_of_claimable selected] at processed
    cases processed
  · rw [unsettled_of_claimable selected] at dead
    cases dead

/-- What the transaction that may touch a settled row sees of it. -/
theorem RowsKept.seen (kept : RowsKept world) {key : UUID} {row seen : OutboxMessageModel}
    (same : (world.cell .outbox_messages key).committed = some row) (ended : settled row)
    (visible : (world.cell .outbox_messages key).visible run = some seen) : seen = row := by
  by_cases held : (world.cell .outbox_messages key).HeldBy run
  · rcases held with ⟨draft, locked⟩
    rw [Cell.visible_of_lock locked] at visible
    subst visible
    rcases kept.guarded key row run _ same ended locked with impossible | equal
    · cases impossible
    · exact Option.some.inj equal
  · rw [Cell.visible_of_not_heldBy held, same] at visible
    exact (Option.some.inj visible).symm

theorem guarded_executed {answer : Except Error op.Answer} (kept : RowsKept world) (proper : Proper op)
    (executed : World.Executed run world op after answer) {key : UUID} {row : OutboxMessageModel}
    {holder : RunId} {draft : Option OutboxMessageModel}
    (same : (after.cell .outbox_messages key).committed = some row) (ended : settled row)
    (locked : (after.cell .outbox_messages key).lock = some (holder, draft)) :
    draft = none ∨ draft = some row := by
  cases executed.cell .outbox_messages key with
  | kept unchanged =>
      rw [unchanged] at same locked
      exact kept.guarded key row holder draft same ended locked
  | locked query limit seen operation visible selected free changed =>
      rw [changed] at same locked
      cases locked
      exact .inr (congrArg some (kept.seen same ended visible))
  | updated statement time seen operation visible selected free changed =>
      rw [changed] at same
      cases kept.seen same ended visible
      exact absurd ended (unsettled_of_change proper operation selected)
  | claimed query limit statement time seen operation visible selected free changed =>
      rw [changed] at same
      cases kept.seen same ended visible
      exact absurd ended (not_settled_of_claimable selected)
  | deleted cutoff seen operation table visible selected free changed =>
      rw [changed] at locked
      cases locked
      exact .inl rfl
  | added found operation own vacant changed =>
      rw [changed] at same
      cases same
  | inserted found operation table => cases table
  | committed operation changed =>
      rw [changed] at same locked
      rcases Cell.lock_of_commit locked with ⟨before, free⟩
      rw [Cell.commit_of_not_heldBy free] at same
      exact kept.guarded key row holder draft same ended before
  | released operation changed =>
      rw [changed] at same locked
      rw [Cell.rollback_committed] at same
      exact kept.guarded key row holder draft same ended (Cell.lock_of_rollback locked).1

theorem RowsKept.executed {answer : Except Error op.Answer} (kept : RowsKept world) (proper : Proper op)
    (executed : World.Executed run world op after answer) : RowsKept after where
  represented := fun _ _ carried => represented_executed kept proper executed carried
  guarded := fun _ _ _ _ same ended locked => guarded_executed kept proper executed same ended locked

theorem RowsKept.crash (kept : RowsKept world) : RowsKept (world.crash run) where
  represented := by
    intro key row carried
    rw [World.crash_cell] at carried
    rw [World.crash_trace]
    exact (kept.represented key row (Cell.carries_of_rollback carried)).mono
      (fun _ used => limits_used_mono used)
  guarded := by
    intro key row holder draft same ended locked
    rw [World.crash_cell] at same locked
    rw [Cell.rollback_committed] at same
    exact kept.guarded key row holder draft same ended (Cell.lock_of_rollback locked).1

theorem RowsKept.of_tables (kept : RowsKept world) (tables : after.tables = world.tables)
    (used : forall limit, limit ∈ limits_used world.trace -> limit ∈ limits_used after.trace) :
    RowsKept after where
  represented := by
    intro key row carried
    rw [World.cell, tables] at carried
    exact (kept.represented key row carried).mono used
  guarded := by
    intro key row holder draft same ended locked
    rw [World.cell, tables] at same locked
    exact kept.guarded key row holder draft same ended locked

theorem limits_used_occurred (occurred : World.Occurred world after) :
    limits_used after.trace = limits_used world.trace := by
  rcases occurred.trace with same | ⟨event, observed, same⟩
  · rw [same]
  · rw [same, limits_used, List.filterMap_cons]
    cases observed <;> rfl

theorem RowsKept.occurred (kept : RowsKept world) (occurred : World.Occurred world after) :
    RowsKept after :=
  kept.of_tables occurred.tables (fun _ used => (limits_used_occurred occurred).symm ▸ used)

theorem gone_executed {answer : Except Error op.Answer} {key : UUID} (gone : Gone world key)
    (executed : World.Executed run world op after answer) : Gone after key := by
  refine ⟨executed.listed gone.1, ?_⟩
  have unseen : (world.cell .outbox_messages key).visible run = none := by
    rw [gone.2]
    rfl
  have unseen : forall row, (world.cell .outbox_messages key).visible run ≠ some row := by
    rw [unseen]
    exact fun row impossible => by cases impossible
  have fresh : forall row : OutboxMessageModel, op = .add .outbox_messages row -> row.id = key ->
      after.cell .outbox_messages key = Cell.vacant := by
    rintro row rfl rfl
    cases executed with
    | raised => exact gone.2
    | added name row storable unlisted => exact absurd gone.1 unlisted
    | add_refused => exact gone.2
  cases executed.cell .outbox_messages key with
  | kept unchanged => exact unchanged.trans gone.2
  | locked query limit seen operation visible => exact absurd visible (unseen seen)
  | updated statement time seen operation visible => exact absurd visible (unseen seen)
  | claimed query limit statement time seen operation visible => exact absurd visible (unseen seen)
  | deleted cutoff seen operation table visible => exact absurd visible (unseen seen)
  | added found operation own => exact fresh found operation own
  | inserted found operation table => cases table
  | committed operation changed =>
      rw [changed, gone.2]
      rfl
  | released operation changed =>
      rw [changed, gone.2]
      rfl

theorem settled_executed {answer : Except Error op.Answer} (kept : RowsKept world)
    (executed : World.Executed run world op after answer) {key : UUID} {row : OutboxMessageModel}
    (same : (world.cell .outbox_messages key).committed = some row) (ended : settled row) :
    (after.cell .outbox_messages key).committed = some row ∨ Gone after key := by
  have listed : key ∈ (world.tables .outbox_messages).keys :=
    Table.listed_of_carries (.committed same)
  cases executed.cell .outbox_messages key with
  | kept unchanged => exact .inl (unchanged ▸ same)
  | locked query limit seen operation visible selected free changed => exact .inl (changed ▸ same)
  | updated statement time seen operation visible selected free changed => exact .inl (changed ▸ same)
  | claimed query limit statement time seen operation visible selected free changed =>
      exact .inl (changed ▸ same)
  | deleted cutoff seen operation table visible selected free changed => exact .inl (changed ▸ same)
  | added found operation own vacant changed =>
      rw [vacant] at same
      cases same
  | inserted found operation table => cases table
  | committed operation changed =>
      by_cases held : (world.cell .outbox_messages key).HeldBy run
      · rcases held with ⟨draft, locked⟩
        rw [Cell.commit_of_lock locked] at changed
        rcases kept.guarded key row run draft same ended locked with rfl | rfl
        · exact .inr ⟨executed.listed listed, changed⟩
        · exact .inl (by rw [changed])
      · exact .inl (by rw [changed, Cell.commit_of_not_heldBy held, same])
  | released operation changed => exact .inl (by rw [changed, Cell.rollback_committed, same])

theorem RowsEvolve.executed {answer : Except Error op.Answer} (kept : RowsKept world)
    (executed : World.Executed run world op after answer) : RowsEvolve world after where
  settled := fun _ _ same ended => settled_executed kept executed same ended
  gone := fun _ gone => gone_executed gone executed

theorem RowsEvolve.crash : RowsEvolve world (world.crash run) where
  settled := by
    intro key row same _
    rw [World.crash_cell, Cell.rollback_committed]
    exact .inl same
  gone := by
    intro key gone
    refine ⟨World.crash_listed gone.1, ?_⟩
    rw [World.crash_cell, gone.2]
    rfl

theorem RowsEvolve.of_tables (same : after.tables = world.tables) : RowsEvolve world after := by
  have cells : forall key, after.cell .outbox_messages key = world.cell .outbox_messages key := by
    intro key
    rw [World.cell, World.cell, same]
  refine ⟨fun key row committed _ => .inl (by rw [cells, committed]), fun key gone => ⟨?_, ?_⟩⟩
  · rw [same]
    exact gone.1
  · rw [cells, gone.2]

/-- A settled version that is not yet committed is kept or deleted by its own
transaction, and ends with it. -/
theorem settled_draft_executed {answer : Except Error op.Answer} (proper : Proper op)
    (executed : World.Executed run world op after answer) {key : UUID} {row : OutboxMessageModel}
    {holder : RunId} (locked : (world.cell .outbox_messages key).lock = some (holder, some row))
    (ended : settled row) :
    (after.cell .outbox_messages key).lock = some (holder, some row) ∨
      (after.cell .outbox_messages key).lock = some (holder, none) ∨
      ((after.cell .outbox_messages key).lock = none ∧
        ((after.cell .outbox_messages key).committed = some row ∨
          (after.cell .outbox_messages key).committed = (world.cell .outbox_messages key).committed)) := by
  have mine : (world.cell .outbox_messages key).heldByOther run = false -> holder = run := by
    intro free
    rcases Cell.heldByOther_eq_false_iff.mp free with unlocked | held
    · rw [locked] at unlocked
      cases unlocked
    · exact Cell.HeldBy.unique ⟨_, locked⟩ held
  have sees : forall seen, (world.cell .outbox_messages key).heldByOther run = false ->
      (world.cell .outbox_messages key).visible run = some seen -> seen = row := by
    intro seen free visible
    cases mine free
    rw [Cell.visible_of_lock locked] at visible
    exact (Option.some.inj visible).symm
  cases executed.cell .outbox_messages key with
  | kept unchanged => exact .inl (unchanged ▸ locked)
  | locked query limit seen operation visible selected free changed =>
      cases sees seen free visible
      cases mine free
      exact .inl (by rw [changed]; rfl)
  | updated statement time seen operation visible selected free changed =>
      cases sees seen free visible
      exact absurd ended (unsettled_of_change proper operation selected)
  | claimed query limit statement time seen operation visible selected free changed =>
      cases sees seen free visible
      exact absurd ended (not_settled_of_claimable selected)
  | deleted cutoff seen operation table visible selected free changed =>
      cases mine free
      exact .inr (.inl (by rw [changed]; rfl))
  | added found operation own vacant changed =>
      rw [vacant] at locked
      cases locked
  | inserted found operation table => cases table
  | committed operation changed =>
      by_cases held : (world.cell .outbox_messages key).HeldBy run
      · cases Cell.HeldBy.unique ⟨_, locked⟩ held
        rw [Cell.commit_of_lock locked] at changed
        exact .inr (.inr ⟨by rw [changed], .inl (by rw [changed])⟩)
      · rw [Cell.commit_of_not_heldBy held] at changed
        exact .inl (changed ▸ locked)
  | released operation changed =>
      by_cases held : (world.cell .outbox_messages key).HeldBy run
      · cases Cell.HeldBy.unique ⟨_, locked⟩ held
        rw [Cell.rollback_of_lock locked] at changed
        exact .inr (.inr ⟨by rw [changed], .inr (by rw [changed])⟩)
      · rw [Cell.rollback_of_not_heldBy held] at changed
        exact .inl (changed ▸ locked)

/-! ## Sessions that call the operations in any order -/

inductive OutboxCall where
  | collect_events (events : List DomainEvent)
  | release_expired_claims (now : Datetime) (timeout max_attempts : Int)
  | claim_batch (limit : Int) (now : Datetime) (worker_id : UUID) (max_attempts : Int)
  | mark_processed (message_id worker_id : UUID)
  | mark_publish_failure (message_id worker_id : UUID) (max_attempts : Int)
      (next_retry_at : Option Datetime)
  | reap_exhausted (max_attempts : Int)
  | purge_processed (cutoff : Datetime)
  | commit
  | rollback

def OutboxCall.program : OutboxCall -> Program Unit
  | .collect_events events => UnitOfWork.collect_events events
  | .release_expired_claims now timeout max_attempts => do
      let _released ← SqlAlchemyOutboxRepository.release_expired_claims now timeout max_attempts
  | .claim_batch limit now worker_id max_attempts => do
      let _messages ← SqlAlchemyOutboxRepository.claim_batch limit now worker_id max_attempts
  | .mark_processed message_id worker_id => SqlAlchemyOutboxRepository.mark_processed message_id worker_id
  | .mark_publish_failure message_id worker_id max_attempts next_retry_at =>
      SqlAlchemyOutboxRepository.mark_publish_failure message_id worker_id max_attempts next_retry_at
  | .reap_exhausted max_attempts => SqlAlchemyOutboxRepository.reap_exhausted max_attempts
  | .purge_processed cutoff => SqlAlchemyOutboxRepository.purge_processed cutoff
  | .commit => await .commit
  | .rollback => await .rollback

/-- Any number of sessions, each with a sequence of calls of its own. -/
@[reducible] def outbox_sessions : Machine signature where
  Shared := World
  Run := RunId
  Choice := Choice
  Job := List OutboxCall
  Result := fun _ => Unit
  Env := Occurrence
  program := fun _ calls => scope (forEach OutboxCall.program calls)
  exec := World.exec
  start := fun _ _ world => some world
  crash := World.crash
  env := World.happen

def sessions_discipline : Discipline outbox_sessions where
  inv := RowsKept
  evolves := RowsEvolve
  frame := World.Untouched
  permits := fun _ op _ => Proper op
  allowed := fun _ _ => True
  evolves_refl := RowsEvolve.refl
  evolves_trans := RowsEvolve.trans
  frame_refl := World.Untouched.refl
  frame_trans := World.Untouched.trans

theorem rows_kept_initially : RowsKept World.initial where
  represented := by
    intro key row carried
    cases carried with
    | committed same => cases same
    | draft same => cases same
  guarded := by
    intro key row holder draft same
    cases same

theorem sessions_upheld : sessions_discipline.Upheld World.initial where
  initially := rows_kept_initially
  starts := by
    intro run job world after kept started _
    cases started
    exact ⟨kept, RowsEvolve.refl world, fun other _ => World.Untouched.refl other world⟩
  operations := by
    intro run op choice world after answer kept proper ran _
    have executed := World.exec_executed ran
    exact ⟨kept.executed proper executed, RowsEvolve.executed kept executed,
      fun other different => executed.untouched different⟩
  crashes := by
    intro run world kept _
    exact ⟨kept.crash, RowsEvolve.crash, fun other different => World.crash_untouched different⟩
  environment := by
    intro event world after kept happened _
    have occurred := World.happen_occurred happened
    exact ⟨kept.occurred occurred, RowsEvolve.of_tables occurred.tables,
      fun run => occurred.untouched run⟩

/-- The representation keeps away from operations that are not on outbox rows. -/
theorem proper_of_ne {op : Op} (add : forall row, op ≠ .add .outbox_messages row)
    (update : forall statement, op ≠ .update .outbox_messages statement)
    (claim : forall query limit statement, op ≠ .update_claimable .outbox_messages query limit statement) :
    Proper op where
  added := fun row same => absurd same (add row)
  updated := fun _ _ => update _
  claimed := fun query limit statement same => absurd same (claim query limit statement)

theorem proper_update {statement : Update .outbox_messages}
    (not_claim : forall now worker_id, statement ≠ .claim now worker_id) :
    Proper (.update .outbox_messages statement) where
  added := by
    intro row same
    cases same
  updated := by
    intro now worker_id same
    cases same
    exact not_claim now worker_id rfl
  claimed := by
    intro query limit other same
    cases same

theorem proper_claim (query : Query .outbox_messages) (limit : Int) (now : Datetime) (worker_id : UUID) :
    Proper (.update_claimable .outbox_messages query limit (.claim now worker_id)) where
  added := by
    intro row same
    cases same
  updated := by
    intro now worker_id same
    cases same
  claimed := by
    intro query limit other same
    cases same
    exact ⟨now, worker_id, rfl⟩

theorem proper_add (id : UUID) (event : DomainEvent) :
    Proper (.add .outbox_messages (OutboxMessageModel.of_event id event)) where
  added := by
    intro row same
    cases same
    exact ⟨id, event, rfl⟩
  updated := by
    intro now worker_id same
    cases same
  claimed := by
    intro query limit other same
    cases same

theorem collect_events_proper (events : List DomainEvent) : (collect_events events).OnlyCalls Proper := by
  refine OnlyCalls.forEach (fun event => ?_) events
  refine OnlyCalls.bind (OnlyCalls.perform ?_) (fun id => OnlyCalls.perform (proper_add id event))
  exact proper_of_ne (by simp) (by simp) (by simp)

theorem scope_proper {X : Type} {body : Program X} (proper : body.OnlyCalls Proper) :
    (scope body).OnlyCalls Proper := by
  have rollback : Proper .rollback := proper_of_ne (by simp) (by simp) (by simp)
  have close : Proper .close := proper_of_ne (by simp) (by simp) (by simp)
  exact OnlyCalls.tryFinally (OnlyCalls.tryCatch proper (fun error =>
    OnlyCalls.bind (OnlyCalls.perform rollback) (fun _ => OnlyCalls.raise error)))
    (OnlyCalls.perform close)

theorem call_proper (call : OutboxCall) : call.program.OnlyCalls Proper := by
  have statement : forall statement : Update .outbox_messages,
      (forall now worker_id, statement ≠ .claim now worker_id) ->
      (await (.update .outbox_messages statement)).OnlyCalls Proper :=
    fun _ not_claim => OnlyCalls.perform (proper_update not_claim)
  have other : forall op : Op, Proper op -> (await op).OnlyCalls Proper :=
    fun _ proper => OnlyCalls.perform proper
  cases call with
  | collect_events events => exact collect_events_proper events
  | release_expired_claims now timeout max_attempts =>
      refine OnlyCalls.bind (OnlyCalls.bind (statement _ (by simp)) (fun _ =>
        OnlyCalls.bind (statement _ (by simp)) (fun _ => OnlyCalls.ret _))) (fun _ => OnlyCalls.ret _)
  | claim_batch limit now worker_id max_attempts =>
      exact OnlyCalls.bind (OnlyCalls.bind (other _ (proper_claim _ limit now worker_id))
        (fun _ => OnlyCalls.ret _)) (fun _ => OnlyCalls.ret _)
  | mark_processed message_id worker_id =>
      exact OnlyCalls.bind (statement _ (by simp)) (fun _ => OnlyCalls.ret _)
  | mark_publish_failure message_id worker_id max_attempts next_retry_at =>
      exact OnlyCalls.bind (statement _ (by simp)) (fun _ => OnlyCalls.ret _)
  | reap_exhausted max_attempts =>
      exact OnlyCalls.bind (statement _ (by simp)) (fun _ => OnlyCalls.ret _)
  | purge_processed cutoff => exact other _ (proper_of_ne (by simp) (by simp) (by simp))
  | commit => exact other _ (proper_of_ne (by simp) (by simp) (by simp))
  | rollback => exact other _ (proper_of_ne (by simp) (by simp) (by simp))

def sessions_verified : sessions_discipline.Verified World.initial where
  upheld := sessions_upheld
  idle := fun _ => .fact True
  post := fun _ _ _ => .fact True
  error := fun _ _ _ => .fact True
  initial_idle := fun _ => trivial
  programs := by
    intro run calls world after _ _ _ kept _
    refine Discipline.Triple.of_onlyCalls (.fact True) (fun op proper _ _ _ => proper)
      (fun _ _ _ _ _ _ _ _ _ _ => trivial) (fun _ _ _ _ => trivial) (fun _ _ _ _ => trivial) ?_
      after kept trivial
    exact scope_proper (OnlyCalls.forEach call_proper calls)

/-- Every version of every outbox row is represented properly, and a settled
row is never changed again except by deletion: neither once it is committed
nor, before that, by its own transaction. -/
theorem outbox_rows_represented {state : outbox_sessions.State}
    (reached : Machine.Reachable (fun _ _ => True) World.initial state) :
    (forall key row, (state.shared.cell .outbox_messages key).Carries row ->
      Represented (limits_used state.shared.trace) row) ∧
    (forall key row later, (state.shared.cell .outbox_messages key).committed = some row ->
      settled row -> Machine.Path (fun _ _ => True) state later ->
      (later.shared.cell .outbox_messages key).committed = some row ∨ Gone later.shared key) ∧
    (forall key holder row action next,
      (state.shared.cell .outbox_messages key).lock = some (holder, some row) -> settled row ->
      Machine.step state action = some next ->
      (next.shared.cell .outbox_messages key).lock = some (holder, some row) ∨
        (next.shared.cell .outbox_messages key).lock = some (holder, none) ∨
        ((next.shared.cell .outbox_messages key).lock = none ∧
          ((next.shared.cell .outbox_messages key).committed = some row ∨
            (next.shared.cell .outbox_messages key).committed =
              (state.shared.cell .outbox_messages key).committed))) := by
  refine ⟨(sessions_verified.invariant reached).represented, ?_, ?_⟩
  · intro key row later same ended path
    exact (sessions_verified.evolves reached path).settled key row same ended
  · intro key holder row action next locked ended taken
    rcases Machine.step_cases taken with
      ⟨run, job, shared, _, started, rfl⟩ | ⟨run, job, op, rest, choice, outcome, running, ran, rfl⟩ |
      ⟨run, job, op, rest, _, rfl⟩ | ⟨event, shared, happened, rfl⟩
    · cases started
      exact .inl locked
    · exact settled_draft_executed (sessions_verified.permitted reached running)
        (World.exec_executed ran) locked ended
    · have cell : (World.crash run state.shared).cell .outbox_messages key =
          (state.shared.cell .outbox_messages key).rollback run := World.crash_cell .outbox_messages key
      by_cases held : (state.shared.cell .outbox_messages key).HeldBy run
      · cases Cell.HeldBy.unique ⟨_, locked⟩ held
        rw [Cell.rollback_of_lock locked] at cell
        exact .inr (.inr ⟨by rw [cell], .inr (by rw [cell])⟩)
      · rw [Cell.rollback_of_not_heldBy held] at cell
        exact .inl (cell ▸ locked)
    · have cell := (World.happen_occurred happened).cell .outbox_messages key
      exact .inl (cell ▸ locked)

/-- One session collects an event, claims it, marks it processed and commits;
another one is about to purge it. -/
def publish_and_purge : List outbox_sessions.Action :=
  [.start 0 [.collect_events [.PaymentProcessingStarted 7 0 none], .claim_batch 10 5 0 1,
      .mark_processed 1 0, .commit],
    .perform 0 (.calm 0 1), .perform 0 (.calm 0 1), .perform 0 (.calm 0 1), .perform 0 (.calm 6 1),
    .perform 0 (.calm 0 1), .start 1 [.purge_processed 7]]

theorem published_row_represented :
    Exists fun state : outbox_sessions.State => Exists fun row =>
      (state.shared.cell .outbox_messages 1).committed = some row ∧ row.status = .PROCESSED ∧
        Represented (limits_used state.shared.trace) row := by
  have published : (Machine.runFrom (Machine.fresh World.initial) publish_and_purge).map (fun state =>
      (state.shared.cell .outbox_messages 1).committed.map OutboxMessageModel.status) =
      some (some .PROCESSED) := by decide +kernel
  rcases Option.map_eq_some_iff.mp published with ⟨state, ran, found⟩
  rcases Option.map_eq_some_iff.mp found with ⟨row, committed, status⟩
  have represented := (outbox_rows_represented (Machine.Path.of_runFrom publish_and_purge ran)).1
  exact ⟨state, row, committed, status, represented 1 row (.committed committed)⟩

end Properties
end Payments
