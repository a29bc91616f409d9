import Payments.Properties.ClaimRecords
import Payments.System.Service

namespace Payments
namespace Properties

open Concurrency Domain Infrastructure Payments.System

/-!
# Leases of outbox messages

`LeasesKept` keeps the books of the outbox: attempts count committed claims,
every publish belongs to a committed claim, a processed row has a confirmed
publish under its last claim, and a dead row has used up its attempts.
`LeasePermits` says when an operation may be executed; it is all that the
invariant needs to know about the programs.
-/

/-- A bound on the attempts that some outbox worker may be started with. -/
def Admitted (deployment : Deployment) (limit : Int) : Prop :=
  Exists fun settings => deployment.outbox_settings settings = true ∧ settings.OUTBOX_MAX_ATTEMPTS = limit

/-- The run sees the row claimed by itself. -/
structure Owns (run : RunId) (key : UUID) (row : OutboxMessageModel) (world : World) : Prop where
  seen : (world.cell .outbox_messages key).visible run = some row
  status : row.status = .PROCESSING
  claimed_by : row.claimed_by = some run

/-- The event neither ends a transaction with a commit nor starts a cycle. -/
def continues : Event -> Bool
  | .committed _ => false
  | .clock_read _ => false
  | _ => true

/-- The last commit of the run has claimed the row, and the run has not started
another cycle since. -/
structure Current (run : RunId) (key : UUID) (row : OutboxMessageModel) (world : World) : Prop where
  recorded : Exists fun recent => Exists fun record => Exists fun earlier =>
    world.own run = recent ++ .committed record :: earlier ∧
      (forall event, event ∈ recent -> continues event = true) ∧ (key, some row) ∈ record .outbox_messages
  id : row.id = key
  status : row.status = .PROCESSING
  claimed_by : row.claimed_by = some run

/-- The transaction of the run has not claimed anything. -/
def Unleased (run : RunId) (world : World) : Prop :=
  forall key draft, (world.cell .outbox_messages key).lock = some (run, some draft) ->
    draft.status ≠ .PROCESSING

/-- The transaction of the run has not changed a claimed row. -/
def Unmarking (run : RunId) (world : World) : Prop :=
  forall key draft row, (world.cell .outbox_messages key).lock = some (run, draft) ->
    (world.cell .outbox_messages key).committed = some row -> row.status ≠ .PROCESSING

def update_limit : Update .outbox_messages -> Option Int
  | .release_to_dead _ max_attempts => some max_attempts
  | .mark_publish_failure _ _ max_attempts _ => some max_attempts
  | .reap_exhausted max_attempts => some max_attempts
  | _ => none

/-- What holds when a run is about to execute an operation on the outbox. -/
structure LeasePermits (deployment : Deployment) (run : RunId) (op : Op) (world : World) : Prop where
  proper : Proper op
  unlocked : forall query limit, op ≠ .select_for_update .outbox_messages query limit
  reading : op = .now -> Unmarking run world
  unleased : forall statement, op = .update .outbox_messages statement -> Unleased run world
  limited : forall statement limit, op = .update .outbox_messages statement ->
    update_limit statement = some limit -> Admitted deployment limit
  releasing : forall cutoff limit, op = .update .outbox_messages (.release_to_dead cutoff limit) ∨
      op = .update .outbox_messages (.release_to_pending cutoff limit) ->
    Exists fun settings => Exists fun now => deployment.outbox_settings settings = true ∧
      cutoff = now - settings.OUTBOX_CLAIM_TIMEOUT ∧ .clock_read now ∈ world.own run
  marking : forall message_id worker_id,
    op = .update .outbox_messages (.mark_processed message_id worker_id) ->
    worker_id = run ∧ forall row, Owns run message_id row world -> Current run message_id row world ∧
      (.environment, .publish_confirmed run row.to_domain) ∈ world.trace
  failing : forall message_id worker_id limit next_retry_at,
    op = .update .outbox_messages (.mark_publish_failure message_id worker_id limit next_retry_at) ->
    worker_id = run ∧ forall row, Owns run message_id row world -> Current run message_id row world ∧
      (.environment, .publish_failed run row.to_domain) ∈ world.trace ∧
      (next_retry_at = none <-> limit ≤ row.to_domain.attempts)
  claiming : forall query limit now worker_id,
    op = .update_claimable .outbox_messages query limit (.claim now worker_id) ->
    worker_id = run ∧ .clock_read now ∈ world.own run ∧ (forall key row, ¬ Current run key row world) ∧
      forall due max_attempts, query = .claimable_messages due max_attempts -> Admitted deployment max_attempts
  publishing : forall messages concurrency, op = .publish_all messages concurrency ->
    (messages.map OutboxMessage.id).Nodup ∧ forall message, message ∈ messages ->
      load (claim_of run message) world = 0 ∧
        Exists fun row => Current run row.id row world ∧ row.to_domain = message
  committing : op = .commit -> (world.publishing run).tasks = [] ∧
    forall key row, Current run key row world ->
      (.environment, .publish_confirmed run row.to_domain) ∈ world.trace -> ¬ Owns run key row world

structure LeasesKept (deployment : Deployment) (world : World) : Prop where
  rows : RowsKept world
  keyed : World.Keyed world
  publishes : PublishesKept world
  limits : forall limit, limit ∈ limits_used world.trace -> Admitted deployment limit
  /-- The attempts of a row count its committed claims. -/
  counted : forall key row, (world.cell .outbox_messages key).committed = some row ->
    row.attempts = committed_claims key world.trace
  drafted : forall key run draft, (world.cell .outbox_messages key).lock = some (run, some draft) ->
    draft.attempts = committed_claims key world.trace + if draft.status = .PROCESSING then 1 else 0
  leased : forall key run draft, (world.cell .outbox_messages key).lock = some (run, some draft) ->
    draft.status = .PROCESSING -> draft.claimed_by = some run
  exhausted : forall key row, (world.cell .outbox_messages key).Carries row -> row.status = .DEAD ->
    Exists fun limit => Admitted deployment limit ∧ limit ≤ row.attempts
  confirmed : forall key row, (world.cell .outbox_messages key).Carries row -> row.status = .PROCESSED ->
    Exists fun worker => Exists fun message =>
      (.environment, .publish_confirmed worker message) ∈ world.trace ∧ message.id = key ∧
        message.attempts = row.attempts ∧ message.claimed_by = some worker
  /-- A lock without a draft is about to delete a row that has been purged. -/
  purging : forall key run row, (world.cell .outbox_messages key).lock = some (run, none) ->
    (world.cell .outbox_messages key).committed = some row ->
    Exists fun cutoff => Exists fun rows => Exists fun purged =>
      (.run run, .purged cutoff rows) ∈ world.trace ∧ purged ∈ rows ∧ purged.id = key ∧
        purgeable cutoff purged = true
  unlisted : forall key, key ∉ (world.tables .outbox_messages).keys -> committed_claims key world.trace = 0
  once : forall key attempts, claims_at key attempts world.trace ≤ 1
  beyond : forall key attempts, attempts = 0 ∨ committed_claims key world.trace < attempts ->
    claims_at key attempts world.trace = 0
  loads : forall claim, load claim world ≤ taken claim world.trace
  bounded : forall key, committed_claims key world.trace = 0 ∨
    Exists fun limit => Admitted deployment limit ∧ (committed_claims key world.trace : Int) ≤ limit

variable {deployment : Deployment} {world after : World} {run : RunId} {op : Op}

theorem leases_kept_initially : LeasesKept deployment World.initial where
  rows := rows_kept_initially
  keyed := World.keyed_initially
  publishes := publishes_kept_initially
  limits := by
    intro limit used
    cases used
  counted := by
    intro key row same
    cases same
  drafted := by
    intro key run draft locked
    cases locked
  leased := by
    intro key run draft locked
    cases locked
  exhausted := by
    intro key row carried
    cases carried with
    | committed same => cases same
    | draft same => cases same
  confirmed := by
    intro key row carried
    cases carried with
    | committed same => cases same
    | draft same => cases same
  purging := by
    intro key run row locked
    cases locked
  unlisted := fun _ _ => rfl
  once := fun _ _ => Nat.zero_le 1
  beyond := fun _ _ _ => rfl
  loads := fun _ => Nat.le_refl 0
  bounded := fun _ => .inl rfl

/-! ## A commit -/

theorem commit_not_claims {key : UUID} {accepts : Nat -> Bool}
    (free : ¬ (world.cell .outbox_messages key).HeldBy run) :
    claims key accepts (.committed (world.record run)) = false := by
  rw [Bool.eq_false_iff]
  intro claimed
  rcases claims_record.mp claimed with ⟨row, locked, _⟩
  exact free ⟨some row, locked⟩

theorem commit_claims_iff {key : UUID} {draft : OutboxMessageModel} {accepts : Nat -> Bool}
    (locked : (world.cell .outbox_messages key).lock = some (run, some draft)) :
    claims key accepts (.committed (world.record run)) = true <->
      draft.status = .PROCESSING ∧ accepts draft.attempts = true := by
  rw [claims_record]
  constructor
  · rintro ⟨row, locked', found⟩
    rw [locked] at locked'
    cases locked'
    exact found
  · exact fun found => ⟨draft, locked, found⟩

theorem LeasesKept.counted_commit (kept : LeasesKept deployment world) {key : UUID}
    {row : OutboxMessageModel} (same : ((world.commit run).cell .outbox_messages key).committed = some row) :
    row.attempts = committed_claims key (world.commit run).trace := by
  rw [World.cell_commit] at same
  rw [committed_claims_commit]
  by_cases held : (world.cell .outbox_messages key).HeldBy run
  · rcases held with ⟨draft, locked⟩
    rw [Cell.commit_of_lock locked] at same
    subst same
    rw [kept.drafted key run row locked]
    by_cases processing : row.status = .PROCESSING
    · rw [if_pos processing, if_pos ((commit_claims_iff locked).mpr ⟨processing, rfl⟩)]
    · rw [if_neg processing, if_neg (fun claimed => processing ((commit_claims_iff locked).mp claimed).1)]
  · rw [Cell.commit_of_not_heldBy held] at same
    rw [commit_not_claims held, kept.counted key row same]
    rfl

/-- What another transaction has locked is not touched by a commit. -/
theorem lock_commit {key : UUID} {holder : RunId} {draft : Option OutboxMessageModel}
    (locked : ((world.commit run).cell .outbox_messages key).lock = some (holder, draft)) :
    (world.cell .outbox_messages key).lock = some (holder, draft) ∧
      ((world.commit run).cell .outbox_messages key).committed =
        (world.cell .outbox_messages key).committed ∧
      committed_claims key (world.commit run).trace = committed_claims key world.trace := by
  rw [World.cell_commit] at locked ⊢
  rcases Cell.lock_of_commit locked with ⟨before, free⟩
  refine ⟨before, by rw [Cell.commit_of_not_heldBy free], ?_⟩
  rw [committed_claims_commit, commit_not_claims free]
  rfl

theorem LeasesKept.claims_at_commit (kept : LeasesKept deployment world) (key : UUID) (attempts : Nat)
    (claimed : claims key (fun found => decide (found = attempts)) (.committed (world.record run)) = true) :
    attempts = committed_claims key world.trace + 1 ∧
      committed_claims key (world.commit run).trace = committed_claims key world.trace + 1 := by
  rcases claims_record.mp claimed with ⟨row, locked, processing, same⟩
  have counted := kept.drafted key run row locked
  rw [if_pos processing] at counted
  refine ⟨(of_decide_eq_true same).symm.trans counted, ?_⟩
  rw [committed_claims_commit, if_pos ((commit_claims_iff locked).mpr ⟨processing, rfl⟩)]

theorem LeasesKept.once_commit (kept : LeasesKept deployment world) (key : UUID) (attempts : Nat) :
    claims_at key attempts (world.commit run).trace ≤ 1 := by
  rw [Properties.claims_at_commit]
  split
  · next claimed =>
      have new := (kept.claims_at_commit key attempts claimed).1
      have unused := kept.beyond key attempts (.inr (by omega))
      omega
  · exact kept.once key attempts

theorem LeasesKept.beyond_commit (kept : LeasesKept deployment world) {key : UUID} {attempts : Nat}
    (outside : attempts = 0 ∨ committed_claims key (world.commit run).trace < attempts) :
    claims_at key attempts (world.commit run).trace = 0 := by
  have grown : committed_claims key world.trace ≤ committed_claims key (world.commit run).trace := by
    rw [committed_claims_commit]
    exact Nat.le_add_right _ _
  rw [Properties.claims_at_commit, kept.beyond key attempts (outside.imp_right grown.trans_lt)]
  split
  · next claimed =>
      have new := kept.claims_at_commit key attempts claimed
      omega
  · rfl

theorem LeasesKept.bounded_commit (kept : LeasesKept deployment world) (key : UUID) :
    committed_claims key (world.commit run).trace = 0 ∨
      Exists fun limit => Admitted deployment limit ∧
        (committed_claims key (world.commit run).trace : Int) ≤ limit := by
  rw [committed_claims_commit]
  split
  · next claimed =>
      rcases claims_record.mp claimed with ⟨row, locked, processing, _⟩
      have attempts := kept.drafted key run row locked
      rw [if_pos processing] at attempts
      rcases (kept.rows.represented key row (.draft locked)).bounded with zero | ⟨limit, used, below⟩
      · omega
      · exact .inr ⟨limit, kept.limits limit used, attempts ▸ below⟩
  · exact kept.bounded key

theorem LeasesKept.commit (kept : LeasesKept deployment world) (proper : Proper .commit)
    {answer : Except Error Unit} (executed : World.Executed run world .commit (world.commit run) answer) :
    LeasesKept deployment (world.commit run) where
  rows := kept.rows.executed proper executed
  keyed := kept.keyed.executed executed
  publishes := kept.publishes.executed executed
  limits := kept.limits
  counted := fun _ _ same => kept.counted_commit same
  drafted := by
    intro key holder draft locked
    rcases lock_commit locked with ⟨before, _, count⟩
    rw [count]
    exact kept.drafted key holder draft before
  leased := fun key holder draft locked => kept.leased key holder draft (lock_commit locked).1
  exhausted := fun key row carried => kept.exhausted key row (Cell.carries_of_commit carried)
  confirmed := by
    intro key row carried processed
    rcases kept.confirmed key row (Cell.carries_of_commit carried) processed with ⟨worker, message, recorded, found⟩
    exact ⟨worker, message, List.mem_cons_of_mem _ recorded, found⟩
  purging := by
    intro key holder row locked same
    rcases lock_commit locked with ⟨before, unchanged, _⟩
    rcases kept.purging key holder row before (unchanged ▸ same) with ⟨cutoff, rows, purged, recorded, found⟩
    exact ⟨cutoff, rows, purged, List.mem_cons_of_mem _ recorded, found⟩
  unlisted := by
    intro key absent
    have unlisted : key ∉ (world.tables .outbox_messages).keys := absent
    have free : ¬ (world.cell .outbox_messages key).HeldBy run := by
      rintro ⟨draft, locked⟩
      rw [World.cell_of_unlisted unlisted] at locked
      cases locked
    rw [committed_claims_commit, commit_not_claims free, kept.unlisted key unlisted]
    rfl
  once := kept.once_commit
  beyond := fun _ _ outside => kept.beyond_commit outside
  loads := by
    intro claim
    calc load claim (world.commit run) ≤ load claim world :=
          load_executed_le executed (fun _ _ impossible => by cases impossible) claim
      _ ≤ taken claim world.trace := kept.loads claim
      _ ≤ taken claim (world.commit run).trace := taken_mono claim (World.trace_executed executed)
  bounded := kept.bounded_commit

/-! ## The other operations -/

theorem status_updated {statement : Update .outbox_messages} {row : OutboxMessageModel}
    (not_claim : forall now worker_id, statement ≠ .claim now worker_id) (now : Datetime) :
    (statement.values now row : OutboxMessageModel).status ≠ .PROCESSING := by
  cases statement with
  | claim now worker_id => exact absurd rfl (not_claim now worker_id)
  | mark_publish_failure message_id worker_id limit next_retry_at =>
      simp only [Update.values]
      split <;> exact fun impossible => by cases impossible
  | _ => exact fun impossible => by cases impossible

theorem attempts_updated {statement : Update .outbox_messages} {row : OutboxMessageModel}
    (not_claim : forall now worker_id, statement ≠ .claim now worker_id) (now : Datetime) :
    (statement.values now row : OutboxMessageModel).attempts = row.attempts := by
  cases statement with
  | claim now worker_id => exact absurd rfl (not_claim now worker_id)
  | _ => rfl

/-- A row becomes dead only when it has used up its attempts. -/
theorem dead_updated {statement : Update .outbox_messages} {row : OutboxMessageModel}
    (selected : statement.condition row = true) {now : Datetime}
    (dead : (statement.values now row : OutboxMessageModel).status = .DEAD) :
    Exists fun limit => update_limit statement = some limit ∧ limit ≤ row.attempts := by
  cases statement with
  | release_to_dead cutoff limit =>
      simp only [Update.condition, Update.exceeded, Bool.and_eq_true, decide_eq_true_eq] at selected
      exact ⟨limit, rfl, selected.2⟩
  | mark_publish_failure message_id worker_id limit next_retry_at =>
      simp only [Update.values] at dead
      split at dead
      · next reached => exact ⟨limit, rfl, of_decide_eq_true reached⟩
      · cases dead
  | reap_exhausted limit =>
      simp only [Update.condition, Update.exceeded, Bool.and_eq_true, decide_eq_true_eq] at selected
      exact ⟨limit, rfl, selected.2⟩
  | _ => cases dead

/-- A row becomes processed only by the mark of its owner. -/
theorem processed_updated {statement : Update .outbox_messages} {row : OutboxMessageModel}
    (selected : statement.condition row = true) {now : Datetime}
    (processed : (statement.values now row : OutboxMessageModel).status = .PROCESSED) :
    Exists fun worker_id => statement = .mark_processed row.id worker_id ∧ row.status = .PROCESSING ∧
      row.claimed_by = some worker_id := by
  cases statement with
  | mark_processed message_id worker_id =>
      simp only [Update.condition, Update.owned, Bool.and_eq_true, decide_eq_true_eq] at selected
      rcases selected with ⟨⟨rfl, processing⟩, mine⟩
      exact ⟨worker_id, rfl, processing, mine⟩
  | mark_publish_failure message_id worker_id limit next_retry_at =>
      simp only [Update.values] at processed
      split at processed <;> cases processed
  | _ => cases processed

/-- The attempts of a row that is not claimed in the transaction of the run. -/
theorem LeasesKept.attempts_seen (kept : LeasesKept deployment world) {key : UUID}
    {row : OutboxMessageModel} (seen : (world.cell .outbox_messages key).visible run = some row)
    (unclaimed : (world.cell .outbox_messages key).lock = some (run, some row) -> row.status ≠ .PROCESSING) :
    row.attempts = committed_claims key world.trace := by
  by_cases held : (world.cell .outbox_messages key).HeldBy run
  · rcases held with ⟨draft, locked⟩
    rw [Cell.visible_of_lock locked] at seen
    subst seen
    rw [kept.drafted key run row locked, if_neg (unclaimed locked), Nat.add_zero]
  · rw [Cell.visible_of_not_heldBy held] at seen
    exact kept.counted key row seen

section Executed

variable {answer : Except Error op.Answer}

theorem LeasesKept.counted_executed (kept : LeasesKept deployment world)
    (executed : World.Executed run world op after answer) (not_commit : op ≠ .commit) {key : UUID}
    {row : OutboxMessageModel} (same : (after.cell .outbox_messages key).committed = some row) :
    row.attempts = committed_claims key after.trace := by
  rw [(same_counts_executed executed not_commit).claims]
  apply kept.counted key row
  cases executed.cell .outbox_messages key with
  | kept unchanged => exact unchanged ▸ same
  | locked query limit seen operation visible selected free changed => exact (changed ▸ same :)
  | updated statement time seen operation visible selected free changed => exact (changed ▸ same :)
  | claimed query limit statement time seen operation visible selected free changed =>
      exact (changed ▸ same :)
  | deleted cutoff seen operation table visible selected free changed => exact (changed ▸ same :)
  | added found operation own vacant changed =>
      rw [changed] at same
      cases same
  | inserted found operation table => cases table
  | committed operation => exact absurd operation not_commit
  | released operation changed => rwa [changed, Cell.rollback_committed] at same

theorem LeasesKept.drafted_executed (kept : LeasesKept deployment world)
    (permits : LeasePermits deployment run op world)
    (executed : World.Executed run world op after answer) (not_commit : op ≠ .commit) {key : UUID}
    {holder : RunId} {draft : OutboxMessageModel}
    (locked : (after.cell .outbox_messages key).lock = some (holder, some draft)) :
    draft.attempts = committed_claims key after.trace + if draft.status = .PROCESSING then 1 else 0 := by
  rw [(same_counts_executed executed not_commit).claims]
  cases executed.cell .outbox_messages key with
  | kept unchanged => exact kept.drafted key holder draft (unchanged ▸ locked)
  | locked query limit seen operation => exact absurd operation (permits.unlocked query limit)
  | updated statement time seen operation visible selected free changed =>
      have not_claim : forall now worker_id, statement ≠ .claim now worker_id := by
        rintro now worker_id rfl
        exact permits.proper.updated now worker_id operation
      rw [changed] at locked
      cases locked
      rw [if_neg (status_updated not_claim time), attempts_updated not_claim, Nat.add_zero]
      exact kept.attempts_seen visible (permits.unleased statement operation key seen)
  | claimed query limit statement time seen operation visible selected free changed =>
      rcases permits.proper.claimed query limit statement operation with ⟨now, worker_id, rfl⟩
      have pending := unsettled_of_claimable selected
      have attempts := kept.attempts_seen visible
        (fun _ processing => by rw [pending] at processing; cases processing)
      rw [changed] at locked
      cases locked
      rw [← attempts]
      rfl
  | deleted cutoff seen operation table visible selected free changed =>
      rw [changed] at locked
      cases locked
  | added found operation own vacant changed =>
      rcases permits.proper.added found operation with ⟨id, event, same⟩
      subst operation
      rcases executed.add_cases with unchanged | unlisted
      · rw [World.cell, unchanged] at locked
        change (world.cell .outbox_messages key).lock = _ at locked
        rw [vacant] at locked
        cases locked
      · rw [changed] at locked
        cases locked
        rw [kept.unlisted key (own ▸ unlisted), same]
        rfl
  | inserted found operation table => cases table
  | committed operation => exact absurd operation not_commit
  | released operation changed =>
      rw [changed] at locked
      exact kept.drafted key holder draft (Cell.lock_of_rollback locked).1

theorem LeasesKept.leased_executed (kept : LeasesKept deployment world)
    (permits : LeasePermits deployment run op world)
    (executed : World.Executed run world op after answer) {key : UUID} {holder : RunId}
    {draft : OutboxMessageModel}
    (locked : (after.cell .outbox_messages key).lock = some (holder, some draft))
    (processing : draft.status = .PROCESSING) : draft.claimed_by = some holder := by
  cases executed.cell .outbox_messages key with
  | kept unchanged => exact kept.leased key holder draft (unchanged ▸ locked) processing
  | locked query limit seen operation => exact absurd operation (permits.unlocked query limit)
  | updated statement time seen operation visible selected free changed =>
      have not_claim : forall now worker_id, statement ≠ .claim now worker_id := by
        rintro now worker_id rfl
        exact permits.proper.updated now worker_id operation
      rw [changed] at locked
      cases locked
      exact absurd processing (status_updated not_claim time)
  | claimed query limit statement time seen operation visible selected free changed =>
      rcases permits.proper.claimed query limit statement operation with ⟨now, worker_id, rfl⟩
      rw [changed] at locked
      cases locked
      exact congrArg some (permits.claiming query limit now worker_id operation).1
  | deleted cutoff seen operation table visible selected free changed =>
      rw [changed] at locked
      cases locked
  | added found operation own vacant changed =>
      rcases permits.proper.added found operation with ⟨id, event, same⟩
      rw [changed] at locked
      cases locked
      rw [same] at processing
      cases processing
  | inserted found operation table => cases table
  | committed operation changed =>
      rw [changed] at locked
      exact kept.leased key holder draft (Cell.lock_of_commit locked).1 processing
  | released operation changed =>
      rw [changed] at locked
      exact kept.leased key holder draft (Cell.lock_of_rollback locked).1 processing

theorem LeasesKept.exhausted_executed (kept : LeasesKept deployment world)
    (permits : LeasePermits deployment run op world)
    (executed : World.Executed run world op after answer) {key : UUID} {row : OutboxMessageModel}
    (carried : (after.cell .outbox_messages key).Carries row) (dead : row.status = .DEAD) :
    Exists fun limit => Admitted deployment limit ∧ limit ≤ row.attempts := by
  rcases (executed.cell .outbox_messages key).carries carried with before | written
  · exact kept.exhausted key row before dead
  · cases written with
    | updated statement time old operation found selected same =>
        have not_claim : forall now worker_id, statement ≠ .claim now worker_id := by
          rintro now worker_id rfl
          exact permits.proper.updated now worker_id operation
        subst same
        rcases dead_updated selected dead with ⟨limit, named, reached⟩
        refine ⟨limit, permits.limited statement limit operation named, ?_⟩
        rwa [attempts_updated not_claim]
    | claimed query limit statement time old operation found selected same =>
        rcases permits.proper.claimed query limit statement operation with ⟨now, worker_id, rfl⟩
        subst same
        cases dead
    | added operation own =>
        rcases permits.proper.added row operation with ⟨id, event, same⟩
        rw [same] at dead
        cases dead
    | inserted new table => cases table

theorem LeasesKept.confirmed_executed (kept : LeasesKept deployment world)
    (permits : LeasePermits deployment run op world)
    (executed : World.Executed run world op after answer) {key : UUID} {row : OutboxMessageModel}
    (carried : (after.cell .outbox_messages key).Carries row) (processed : row.status = .PROCESSED) :
    Exists fun worker => Exists fun message =>
      (.environment, .publish_confirmed worker message) ∈ after.trace ∧ message.id = key ∧
        message.attempts = row.attempts ∧ message.claimed_by = some worker := by
  have grown := (World.trace_executed executed).subset
  rcases (executed.cell .outbox_messages key).carries carried with before | written
  · rcases kept.confirmed key row before processed with ⟨worker, message, recorded, found⟩
    exact ⟨worker, message, grown recorded, found⟩
  · cases written with
    | updated statement time old operation found selected same =>
        subst same
        rcases processed_updated selected processed with ⟨worker_id, rfl, processing, mine⟩
        rcases permits.marking old.id worker_id operation with ⟨rfl, current⟩
        have keyed := kept.keyed .outbox_messages key old (Cell.carries_of_visible found)
        change old.id = key at keyed
        have owns : Owns worker_id old.id old world := ⟨keyed ▸ found, processing, mine⟩
        exact ⟨worker_id, old.to_domain, grown (current old owns).2, keyed, rfl, mine⟩
    | claimed query limit statement time old operation found selected same =>
        rcases permits.proper.claimed query limit statement operation with ⟨now, worker_id, rfl⟩
        subst same
        cases processed
    | added operation own =>
        rcases permits.proper.added row operation with ⟨id, event, same⟩
        rw [same] at processed
        cases processed
    | inserted new table => cases table

theorem LeasesKept.purging_executed (kept : LeasesKept deployment world)
    (executed : World.Executed run world op after answer) (not_commit : op ≠ .commit) {key : UUID}
    {holder : RunId} {row : OutboxMessageModel}
    (locked : (after.cell .outbox_messages key).lock = some (holder, none))
    (same : (after.cell .outbox_messages key).committed = some row) :
    Exists fun cutoff => Exists fun rows => Exists fun purged =>
      (.run holder, .purged cutoff rows) ∈ after.trace ∧ purged ∈ rows ∧ purged.id = key ∧
        purgeable cutoff purged = true := by
  have earlier : (world.cell .outbox_messages key).lock = some (holder, none) ->
      (world.cell .outbox_messages key).committed = some row ->
      Exists fun cutoff => Exists fun rows => Exists fun purged =>
        (.run holder, .purged cutoff rows) ∈ after.trace ∧ purged ∈ rows ∧ purged.id = key ∧
          purgeable cutoff purged = true := by
    intro before same
    rcases kept.purging key holder row before same with ⟨cutoff, rows, purged, recorded, found⟩
    exact ⟨cutoff, rows, purged, (World.trace_executed executed).subset recorded, found⟩
  cases executed.cell .outbox_messages key with
  | kept unchanged => exact earlier (unchanged ▸ locked) (unchanged ▸ same)
  | locked query limit seen operation visible selected free changed =>
      rw [changed] at locked
      cases locked
  | updated statement time seen operation visible selected free changed =>
      rw [changed] at locked
      cases locked
  | claimed query limit statement time seen operation visible selected free changed =>
      rw [changed] at locked
      cases locked
  | deleted cutoff seen operation table visible selected free changed =>
      subst operation
      have keyed := kept.keyed .outbox_messages key seen (Cell.carries_of_visible visible)
      rcases executed.purge_recorded with rfl | recorded
      · exact earlier locked same
      · rw [changed] at locked
        cases locked
        refine ⟨cutoff, _, seen, ?_, Table.mem_select.mpr ⟨key, visible, selected⟩, keyed, selected⟩
        rw [recorded]
        exact List.mem_cons_self
  | added found operation own vacant changed =>
      rw [changed] at locked
      cases locked
  | inserted found operation table => cases table
  | committed operation => exact absurd operation not_commit
  | released operation changed =>
      rw [changed] at locked same
      rw [Cell.rollback_committed] at same
      exact earlier (Cell.lock_of_rollback locked).1 same

theorem Current.claims {key : UUID} {row : OutboxMessageModel} (current : Current run key row world) :
    1 ≤ taken (claim_of run row.to_domain) world.trace := by
  rcases current.recorded with ⟨recent, record, earlier, own, _, recorded⟩
  rw [taken_own, Nat.one_le_iff_ne_zero, Nat.ne_zero_iff_zero_lt, List.countP_pos_iff]
  refine ⟨.committed record, ?_, ?_⟩
  · change _ ∈ world.own run
    rw [own]
    exact List.mem_append_right _ List.mem_cons_self
  · refine List.any_eq_true.mpr ⟨(key, some row), recorded, ?_⟩
    simp [claim_of, OutboxMessageModel.to_domain, current.id, current.status]

theorem countP_claim_of {messages : List OutboxMessage} (nodup : (messages.map OutboxMessage.id).Nodup)
    (claim : ClaimKey) :
    messages.countP (fun message => decide (claim_of run message = claim)) ≤ 1 := by
  have counted : messages.countP (fun message => decide (claim_of run message = claim)) ≤
      (messages.map OutboxMessage.id).count claim.id := by
    rw [List.count_eq_countP, List.countP_map]
    refine List.countP_mono_left (fun message _ same => ?_)
    rw [decide_eq_true_eq] at same
    subst same
    exact beq_self_eq_true _
  exact counted.trans (List.nodup_iff_count_le_one.mp nodup claim.id)

theorem LeasesKept.loads_executed (kept : LeasesKept deployment world)
    (permits : LeasePermits deployment run op world)
    (executed : World.Executed run world op after answer) (claim : ClaimKey) :
    load claim after ≤ taken claim after.trace := by
  have before : load claim world ≤ taken claim after.trace :=
    (kept.loads claim).trans (taken_mono claim (World.trace_executed executed))
  by_cases publish : Exists fun messages => Exists fun concurrency => op = .publish_all messages concurrency
  · rcases publish with ⟨messages, concurrency, rfl⟩
    rcases permits.publishing messages concurrency rfl with ⟨nodup, batch⟩
    by_cases mine : claim.worker = run
    · rcases load_publish_all executed mine with fewer | same
      · exact fewer.trans before
      · rcases Nat.eq_zero_or_pos (messages.countP (fun message => decide (claim_of run message = claim)))
          with none | some
        · rw [same, none]
          exact (Nat.le_add_right _ _).trans before
        · rcases List.countP_pos_iff.mp some with ⟨message, listed, named⟩
          rw [decide_eq_true_eq] at named
          subst named
          rcases batch message listed with ⟨unloaded, row, current, rfl⟩
          have uncalled : calls (claim_of run row.to_domain) world.trace = 0 :=
            Nat.eq_zero_of_add_eq_zero_right unloaded
          calc load (claim_of run row.to_domain) after
              = messages.countP (fun message => decide (claim_of run message = claim_of run row.to_domain)) := by
                rw [same, uncalled, Nat.zero_add]
            _ ≤ 1 := countP_claim_of nodup _
            _ ≤ taken (claim_of run row.to_domain) world.trace := current.claims
            _ ≤ taken (claim_of run row.to_domain) after.trace := taken_mono _ (World.trace_executed executed)
    · rw [load_executed_of_ne executed mine]
      exact before
  · refine (load_executed_le executed (fun messages concurrency same => ?_) claim).trans before
    exact publish ⟨messages, concurrency, same⟩

theorem LeasesKept.limits_executed (kept : LeasesKept deployment world)
    (permits : LeasePermits deployment run op world)
    (executed : World.Executed run world op after answer) {limit : Int}
    (used : limit ∈ limits_used after.trace) : Admitted deployment limit := by
  rcases executed.trace with same | ⟨event, recorded, same⟩
  · exact kept.limits limit (same ▸ used)
  · rw [same, limits_used, List.filterMap_cons] at used
    cases recorded with
    | updated_claimable name query size statement rows =>
        cases name with
        | outbox_messages =>
            cases query with
            | claimable_messages due max_attempts =>
                simp only [claim_limit, List.mem_cons] at used
                rcases permits.proper.claimed _ _ _ rfl with ⟨now, worker_id, rfl⟩
                rcases used with rfl | earlier
                · exact (permits.claiming _ _ _ _ rfl).2.2.2 due limit rfl
                · exact kept.limits limit earlier
        | _ => exact kept.limits limit used
    | _ => exact kept.limits limit used

/-- A permitted operation keeps the books. -/
theorem LeasesKept.executed (kept : LeasesKept deployment world)
    (permits : LeasePermits deployment run op world)
    (executed : World.Executed run world op after answer) : LeasesKept deployment after := by
  by_cases not_commit : op = .commit
  · subst not_commit
    rcases executed.commit_cases with rfl | rfl
    · exact kept
    · exact kept.commit permits.proper executed
  · have counts := same_counts_executed executed not_commit
    exact {
      rows := kept.rows.executed permits.proper executed
      keyed := kept.keyed.executed executed
      publishes := kept.publishes.executed executed
      limits := fun _ used => kept.limits_executed permits executed used
      counted := fun _ _ same => kept.counted_executed executed not_commit same
      drafted := fun _ _ _ locked => kept.drafted_executed permits executed not_commit locked
      leased := fun _ _ _ locked processing => kept.leased_executed permits executed locked processing
      exhausted := fun _ _ carried dead => kept.exhausted_executed permits executed carried dead
      confirmed := fun _ _ carried processed => kept.confirmed_executed permits executed carried processed
      purging := fun _ _ _ locked same => kept.purging_executed executed not_commit locked same
      unlisted := fun key unlisted => (counts.claims key).trans
        (kept.unlisted key (fun listed => unlisted (executed.listed listed)))
      once := fun key attempts => (counts.claims_at key attempts).trans_le (kept.once key attempts)
      beyond := fun key attempts outside => (counts.claims_at key attempts).trans
        (kept.beyond key attempts (counts.claims key ▸ outside))
      loads := kept.loads_executed permits executed
      bounded := fun key => by
        rw [counts.claims]
        exact kept.bounded key }

end Executed

/-! ## Crashes and events of the environment -/

theorem LeasesKept.crash (kept : LeasesKept deployment world) :
    LeasesKept deployment (world.crash run) where
  rows := kept.rows.crash
  keyed := kept.keyed.crash
  publishes := kept.publishes.crash
  limits := by
    intro limit used
    rw [World.crash_trace] at used
    exact kept.limits limit used
  counted := by
    intro key row same
    rw [World.crash_cell, Cell.rollback_committed] at same
    rw [same_counts_crash.claims]
    exact kept.counted key row same
  drafted := by
    intro key holder draft locked
    rw [World.crash_cell] at locked
    rw [same_counts_crash.claims]
    exact kept.drafted key holder draft (Cell.lock_of_rollback locked).1
  leased := by
    intro key holder draft locked
    rw [World.crash_cell] at locked
    exact kept.leased key holder draft (Cell.lock_of_rollback locked).1
  exhausted := by
    intro key row carried
    rw [World.crash_cell] at carried
    exact kept.exhausted key row (Cell.carries_of_rollback carried)
  confirmed := by
    intro key row carried processed
    rw [World.crash_cell] at carried
    rcases kept.confirmed key row (Cell.carries_of_rollback carried) processed with ⟨worker, message, recorded, found⟩
    exact ⟨worker, message, World.trace_crash.subset recorded, found⟩
  purging := by
    intro key holder row locked same
    rw [World.crash_cell] at locked same
    rw [Cell.rollback_committed] at same
    rcases kept.purging key holder row (Cell.lock_of_rollback locked).1 same with
      ⟨cutoff, rows, purged, recorded, found⟩
    exact ⟨cutoff, rows, purged, World.trace_crash.subset recorded, found⟩
  unlisted := by
    intro key unlisted
    rw [same_counts_crash.claims]
    exact kept.unlisted key (fun listed => unlisted (World.crash_listed listed))
  once := fun key attempts => (same_counts_crash.claims_at key attempts).trans_le (kept.once key attempts)
  beyond := fun key attempts outside => (same_counts_crash.claims_at key attempts).trans
    (kept.beyond key attempts (same_counts_crash.claims key ▸ outside))
  loads := by
    intro claim
    rw [same_counts_crash.taken]
    exact (load_crash_le claim).trans (kept.loads claim)
  bounded := by
    intro key
    rw [same_counts_crash.claims]
    exact kept.bounded key

/-- A step that leaves the tables, the claims and the publishes alone. -/
theorem LeasesKept.of_tables (kept : LeasesKept deployment world) (tables : after.tables = world.tables)
    (grown : world.trace <:+ after.trace) (limits : limits_used after.trace = limits_used world.trace)
    (claims : forall id, committed_claims id after.trace = committed_claims id world.trace)
    (claims_at : forall id attempts, claims_at id attempts after.trace = claims_at id attempts world.trace)
    (loads : forall claim, load claim after = load claim world) (publishes : PublishesKept after) :
    LeasesKept deployment after := by
  have cell : forall key, after.cell .outbox_messages key = world.cell .outbox_messages key := by
    intro key
    rw [World.cell, tables, World.cell]
  exact {
    rows := kept.rows.of_tables tables (fun _ used => limits.symm ▸ used)
    keyed := kept.keyed.of_tables tables
    publishes := publishes
    limits := fun limit used => kept.limits limit (limits ▸ used)
    counted := fun key row same => (kept.counted key row (cell key ▸ same)).trans (claims key).symm
    drafted := fun key holder draft locked => by
      rw [claims]
      exact kept.drafted key holder draft (cell key ▸ locked)
    leased := fun key holder draft locked => kept.leased key holder draft (cell key ▸ locked)
    exhausted := fun key row carried => kept.exhausted key row (cell key ▸ carried)
    confirmed := fun key row carried processed => by
      rcases kept.confirmed key row (cell key ▸ carried) processed with ⟨worker, message, recorded, found⟩
      exact ⟨worker, message, grown.subset recorded, found⟩
    purging := fun key holder row locked same => by
      rcases kept.purging key holder row (cell key ▸ locked) (cell key ▸ same) with
        ⟨cutoff, rows, purged, recorded, found⟩
      exact ⟨cutoff, rows, purged, grown.subset recorded, found⟩
    unlisted := fun key unlisted => (claims key).trans (kept.unlisted key (tables ▸ unlisted))
    once := fun key attempts => (claims_at key attempts).trans_le (kept.once key attempts)
    beyond := fun key attempts outside => (claims_at key attempts).trans
      (kept.beyond key attempts (claims key ▸ outside))
    loads := fun claim => (loads claim).trans_le ((kept.loads claim).trans (taken_mono claim grown))
    bounded := fun key => by
      rw [claims]
      exact kept.bounded key }

theorem LeasesKept.occurred (kept : LeasesKept deployment world)
    (occurred : World.Occurred world after) : LeasesKept deployment after :=
  kept.of_tables occurred.tables (World.trace_occurred occurred) (limits_used_occurred occurred)
    (committed_claims_occurred occurred) (claims_at_occurred occurred) (load_occurred occurred)
    (kept.publishes.occurred occurred)

/-- The delivery of a message to a consumer. -/
theorem LeasesKept.delivered (kept : LeasesKept deployment world) (message : Message) (broker : Broker) :
    LeasesKept deployment (World.note (.run run) (.delivered message) (world.set_broker broker)) := by
  have quiet : Quiet (.delivered message) := ⟨fun _ same => (by cases same), rfl, rfl⟩
  have counts := quiet.same_counts (.run run) world.trace
  have loads : forall claim,
      load claim (World.note (.run run) (.delivered message) (world.set_broker broker)) = load claim world :=
    fun claim => congrArg (· + tasks_in claim .waiting world) (counts.calls claim)
  refine kept.of_tables rfl (List.suffix_cons _ _) rfl counts.claims counts.claims_at loads ⟨?_, ?_⟩
  · intro claim
    have before := kept.publishes.counted claim
    have sameEnds := counts.ends claim
    have sameCalls := counts.calls claim
    change ends claim ((.run run, .delivered message) :: world.trace) + tasks_in claim .running world ≤
      calls claim ((.run run, .delivered message) :: world.trace)
    omega
  · intro worker task listed confirmed finished
    exact List.mem_cons_of_mem _ (kept.publishes.recorded worker task listed confirmed finished)

/-! ## What other runs leave alone -/

/-- The part of the outbox that belongs to a run: nobody else gives it a lease,
and nobody else publishes under its claims. -/
structure LeaseFrame (run : RunId) (before after : World) : Prop where
  untouched : World.Untouched run before after
  leases : forall key row, Owns run key row after -> Owns run key row before
  loads : forall claim, claim.worker = run -> load claim after = load claim before

theorem LeaseFrame.refl (run : RunId) (world : World) : LeaseFrame run world world :=
  ⟨World.Untouched.refl run world, fun _ _ owns => owns, fun _ _ => rfl⟩

theorem LeaseFrame.trans {first second third : World} (before : LeaseFrame run first second)
    (after : LeaseFrame run second third) : LeaseFrame run first third where
  untouched := before.untouched.trans after.untouched
  leases := fun key row owns => before.leases key row (after.leases key row owns)
  loads := fun claim mine => (after.loads claim mine).trans (before.loads claim mine)

/-- A step of another run gives no lease to this run: it writes drafts of its
own and commits them. -/
theorem owns_executed {other : RunId} {answer : Except Error op.Answer} (kept : LeasesKept deployment world)
    (executed : World.Executed run world op after answer) (different : other ≠ run) {key : UUID}
    {row : OutboxMessageModel} (owns : Owns other key row after) : Owns other key row world := by
  have frame := (executed.untouched different).tables .outbox_messages key
  by_cases held : (after.cell .outbox_messages key).HeldBy other
  · have same : after.cell .outbox_messages key = world.cell .outbox_messages key := frame (.inr held)
    exact ⟨same ▸ owns.seen, owns.status, owns.claimed_by⟩
  · have free : ¬ (world.cell .outbox_messages key).HeldBy other := by
      intro before
      have same : after.cell .outbox_messages key = world.cell .outbox_messages key := frame (.inl before)
      exact held (same ▸ before)
    have same := owns.seen
    rw [Cell.visible_of_not_heldBy held] at same
    refine ⟨?_, owns.status, owns.claimed_by⟩
    rw [Cell.visible_of_not_heldBy free]
    cases executed.cell .outbox_messages key with
    | kept unchanged => exact unchanged ▸ same
    | locked query limit seen operation visible selected free changed => exact (changed ▸ same :)
    | updated statement time seen operation visible selected free changed => exact (changed ▸ same :)
    | claimed query limit statement time seen operation visible selected free changed =>
        exact (changed ▸ same :)
    | deleted cutoff seen operation table visible selected free changed => exact (changed ▸ same :)
    | added found operation own vacant changed =>
        rw [changed] at same
        cases same
    | inserted found operation table => cases table
    | committed operation changed =>
        rw [changed] at same
        by_cases mine : (world.cell .outbox_messages key).HeldBy run
        · rcases mine with ⟨draft, locked⟩
          rw [Cell.commit_of_lock locked] at same
          subst same
          have claimed := kept.leased key run row locked owns.status
          rw [owns.claimed_by] at claimed
          exact absurd (Option.some.inj claimed) different
        · rwa [Cell.commit_of_not_heldBy mine] at same
    | released operation changed => rwa [changed, Cell.rollback_committed] at same

theorem lease_frame_executed {other : RunId} {answer : Except Error op.Answer}
    (kept : LeasesKept deployment world) (executed : World.Executed run world op after answer)
    (different : other ≠ run) : LeaseFrame other world after where
  untouched := executed.untouched different
  leases := fun _ _ owns => owns_executed kept executed different owns
  loads := by
    rintro claim rfl
    exact load_executed_of_ne executed different

theorem owns_of_cell {key : UUID} {row : OutboxMessageModel}
    (same : after.cell .outbox_messages key = world.cell .outbox_messages key)
    (owns : Owns run key row after) : Owns run key row world :=
  ⟨same ▸ owns.seen, owns.status, owns.claimed_by⟩

theorem owns_crash {other : RunId} (different : other ≠ run) {key : UUID} {row : OutboxMessageModel}
    (owns : Owns other key row (world.crash run)) : Owns other key row world := by
  have seen := owns.seen
  rw [World.crash_cell] at seen
  refine ⟨?_, owns.status, owns.claimed_by⟩
  by_cases held : (world.cell .outbox_messages key).HeldBy run
  · have free : ¬ (world.cell .outbox_messages key).HeldBy other :=
      fun theirs => different (theirs.unique held)
    rcases held with ⟨draft, locked⟩
    rw [Cell.rollback_of_lock locked] at seen
    rw [Cell.visible_of_not_heldBy free]
    exact seen
  · rwa [Cell.rollback_of_not_heldBy held] at seen

theorem lease_frame_crash {other : RunId} (different : other ≠ run) :
    LeaseFrame other world (world.crash run) where
  untouched := World.crash_untouched different
  leases := fun _ _ owns => owns_crash different owns
  loads := by
    rintro claim rfl
    exact load_crash_of_ne different

theorem lease_frame_occurred (occurred : World.Occurred world after) (run : RunId) :
    LeaseFrame run world after where
  untouched := occurred.untouched run
  leases := fun key _ owns => owns_of_cell (occurred.cell .outbox_messages key) owns
  loads := fun claim _ => load_occurred occurred claim

/-! ## How the outbox evolves -/

/-- The purge of a row that was processed or dead is on record. -/
def Purged (key : UUID) (world : World) : Prop :=
  Exists fun run => Exists fun cutoff => Exists fun rows => Exists fun purged =>
    (Actor.run run, Event.purged cutoff rows) ∈ world.trace ∧ purged ∈ rows ∧ purged.id = key ∧
      purgeable cutoff purged = true

structure LeasesEvolve (before after : World) : Prop where
  trace : before.trace <:+ after.trace
  removed : forall key row, (before.cell .outbox_messages key).committed = some row ->
    (after.cell .outbox_messages key).committed ≠ none ∨ Purged key after

theorem Purged.mono {key : UUID} (purged : Purged key world) (grown : world.trace <:+ after.trace) :
    Purged key after := by
  rcases purged with ⟨run, cutoff, rows, row, recorded, found⟩
  exact ⟨run, cutoff, rows, row, grown.subset recorded, found⟩

theorem LeasesEvolve.refl (world : World) : LeasesEvolve world world where
  trace := List.suffix_rfl
  removed := by
    intro key row same
    refine .inl (fun none => ?_)
    rw [none] at same
    cases same

theorem LeasesEvolve.trans {first second third : World} (before : LeasesEvolve first second)
    (after : LeasesEvolve second third) : LeasesEvolve first third where
  trace := before.trace.trans after.trace
  removed := by
    intro key row same
    rcases before.removed key row same with kept | purged
    · rcases Option.ne_none_iff_exists'.mp kept with ⟨row', same'⟩
      exact after.removed key row' same'
    · exact .inr (purged.mono after.trace)

theorem removed_of_same {key : UUID} {row : OutboxMessageModel}
    (committed : (world.cell .outbox_messages key).committed = some row)
    (same : (after.cell .outbox_messages key).committed = (world.cell .outbox_messages key).committed) :
    (after.cell .outbox_messages key).committed ≠ none ∨ Purged key after := by
  refine .inl (fun none => ?_)
  rw [same, committed] at none
  cases none

theorem LeasesKept.removed_executed {answer : Except Error op.Answer} (kept : LeasesKept deployment world)
    (executed : World.Executed run world op after answer) {key : UUID} {row : OutboxMessageModel}
    (committed : (world.cell .outbox_messages key).committed = some row) :
    (after.cell .outbox_messages key).committed ≠ none ∨ Purged key after := by
  cases executed.cell .outbox_messages key with
  | kept unchanged => exact removed_of_same committed (congrArg Cell.committed unchanged)
  | locked query limit seen operation visible selected free changed =>
      exact removed_of_same committed (by rw [changed]; rfl)
  | updated statement time seen operation visible selected free changed =>
      exact removed_of_same committed (by rw [changed]; rfl)
  | claimed query limit statement time seen operation visible selected free changed =>
      exact removed_of_same committed (by rw [changed]; rfl)
  | deleted cutoff seen operation table visible selected free changed =>
      exact removed_of_same committed (by rw [changed]; rfl)
  | added found operation own vacant changed =>
      rw [vacant] at committed
      cases committed
  | inserted found operation table => cases table
  | committed operation changed =>
      by_cases held : (world.cell .outbox_messages key).HeldBy run
      · rcases held with ⟨draft, locked⟩
        rw [Cell.commit_of_lock locked] at changed
        cases draft with
        | some draft =>
            refine .inl (fun none => ?_)
            rw [changed] at none
            cases none
        | none =>
            rcases kept.purging key run row locked committed with ⟨cutoff, rows, purged, recorded, found⟩
            exact .inr ⟨run, cutoff, rows, purged, (World.trace_executed executed).subset recorded, found⟩
      · rw [Cell.commit_of_not_heldBy held] at changed
        exact removed_of_same committed (congrArg Cell.committed changed)
  | released operation changed =>
      refine removed_of_same committed ?_
      rw [changed, Cell.rollback_committed]

theorem leases_evolve_executed {answer : Except Error op.Answer} (kept : LeasesKept deployment world)
    (executed : World.Executed run world op after answer) : LeasesEvolve world after where
  trace := World.trace_executed executed
  removed := fun _ _ committed => kept.removed_executed executed committed

theorem leases_evolve_crash : LeasesEvolve world (world.crash run) where
  trace := World.trace_crash
  removed := by
    intro key row committed
    refine removed_of_same committed ?_
    rw [World.crash_cell, Cell.rollback_committed]

theorem leases_evolve_occurred (occurred : World.Occurred world after) : LeasesEvolve world after where
  trace := World.trace_occurred occurred
  removed := by
    intro key row committed
    exact removed_of_same committed (by rw [occurred.cell])

end Properties
end Payments
