import Payments.Concurrency.SkipLocked
import Payments.Infrastructure.Changes
import Payments.Infrastructure.Sessions

namespace Payments
namespace Properties

open Concurrency Domain Infrastructure Prog Table

/-!
# Splitting a claim of the outbox

Several workers that claim at the same instant take the due messages in the
order in which one worker would, and leave the table that it would leave, apart
from the names of the owners.  They may commit in between or hold their locks.
-/

abbrev OutboxTable := Table UUID OutboxMessageModel RunId

/-- One `claim_batch`: its session, its worker and limit, and whether the
transaction commits before the next one claims. -/
structure WorkerClaim where
  run : RunId
  worker_id : UUID
  limit : Nat
  commits : Bool

def WorkerClaim.claimer (now : Datetime) (claim : WorkerClaim) : Claimer OutboxMessageModel RunId where
  holder := claim.run
  limit := claim.limit
  values := (Update.claim now claim.worker_id).values now
  commits := claim.commits

/-- The claims of several workers at one instant. -/
def claim_batches (now : Datetime) (max_attempts : Int) (claims : List WorkerClaim) (table : OutboxTable) :
    OutboxTable × List (List OutboxMessageModel) :=
  table.claim_all (Query.claimable_messages now max_attempts).condition
    (Query.claimable_messages now max_attempts).before (claims.map (WorkerClaim.claimer now))

/-- The table after all of them have committed. -/
def committed_batches (now : Datetime) (max_attempts : Int) (claims : List WorkerClaim) (table : OutboxTable) :
    OutboxTable :=
  (claim_batches now max_attempts claims table).1.commit_all (claims.map (WorkerClaim.claimer now))

/-! ## Calls of `claim_batch` -/

/-- The workers call `claim_batch` one after the other, and each of them
commits before the next call or holds its locks. -/
inductive ClaimsBatches (now : Datetime) (max_attempts : Int) :
    List WorkerClaim -> World -> List (List OutboxMessage) -> World -> Prop where
  | nil (world : World) : ClaimsBatches now max_attempts [] world [] world
  | committing {claim : WorkerClaim} {rest : List WorkerClaim} {first claimed committed last : World}
      {messages : List OutboxMessage} {batches : List (List OutboxMessage)} (commits : claim.commits = true)
      (claims : Executes claim.run
        (SqlAlchemyOutboxRepository.claim_batch claim.limit now claim.worker_id max_attempts) first (.ok messages) claimed)
      (commit : Executes claim.run (await .commit) claimed (.ok ()) committed)
      (later : ClaimsBatches now max_attempts rest committed batches last) :
      ClaimsBatches now max_attempts (claim :: rest) first (messages :: batches) last
  | holding {claim : WorkerClaim} {rest : List WorkerClaim} {first claimed last : World}
      {messages : List OutboxMessage} {batches : List (List OutboxMessage)} (holds : claim.commits = false)
      (claims : Executes claim.run
        (SqlAlchemyOutboxRepository.claim_batch claim.limit now claim.worker_id max_attempts) first (.ok messages) claimed)
      (later : ClaimsBatches now max_attempts rest claimed batches last) :
      ClaimsBatches now max_attempts (claim :: rest) first (messages :: batches) last

/-- The workers that still hold their locks commit. -/
inductive CommitsBatches : List WorkerClaim -> World -> World -> Prop where
  | nil (world : World) : CommitsBatches [] world world
  | committed {claim : WorkerClaim} {rest : List WorkerClaim} {first last : World} (commits : claim.commits = true)
      (later : CommitsBatches rest first last) : CommitsBatches (claim :: rest) first last
  | held {claim : WorkerClaim} {rest : List WorkerClaim} {first middle last : World} (holds : claim.commits = false)
      (commit : Executes claim.run (await .commit) first (.ok ()) middle) (later : CommitsBatches rest middle last) :
      CommitsBatches (claim :: rest) first last

section

variable {now : Datetime} {max_attempts : Int} {claims : List WorkerClaim} {claim : WorkerClaim}
  {first claimed last : World}

/-- What one call does to the table, and what it returns. -/
theorem claim_batch_executed {messages : List OutboxMessage} (executes : Executes claim.run
      (SqlAlchemyOutboxRepository.claim_batch claim.limit now claim.worker_id max_attempts) first (.ok messages) claimed) :
    claimed.tables .outbox_messages = ((first.tables .outbox_messages).updateClaimable claim.run
        (Query.claimable_messages now max_attempts).condition (Query.claimable_messages now max_attempts).before
        claim.limit ((Update.claim now claim.worker_id).values now)).1 ∧
      messages = ((first.tables .outbox_messages).updateClaimable claim.run
        (Query.claimable_messages now max_attempts).condition (Query.claimable_messages now max_attempts).before
        claim.limit ((Update.claim now claim.worker_id).values now)).2.map OutboxMessageModel.to_domain := by
  rcases executes_returning.mp executes with ⟨choice, rows, executed, rfl⟩
  cases World.exec_executed executed with
  | claimed _ _ _ _ time table rows changed =>
      rw [Int.toNat_natCast] at changed
      have same := Prod.mk.inj changed
      refine ⟨?_, congrArg (List.map _) same.2.symm⟩
      exact (@World.set_table_self first .outbox_messages table).trans same.1.symm

theorem commit_executed {run : RunId} (executes : Executes run (await .commit) first (.ok ()) last) :
    last.tables .outbox_messages = (first.tables .outbox_messages).commit run := by
  rcases executes_await.mp executes with ⟨choice, executed⟩
  simp only [World.exec, World.exec_commit, Option.some.injEq] at executed
  split at executed
  · cases executed
  · split at executed <;> cases executed
    rfl

/-- The calls are claims of the table. -/
theorem ClaimsBatches.as_claims {batches : List (List OutboxMessage)}
    (claims_batches : ClaimsBatches now max_attempts claims first batches last) :
    last.tables .outbox_messages = (claim_batches now max_attempts claims (first.tables .outbox_messages)).1 ∧
      batches = (claim_batches now max_attempts claims (first.tables .outbox_messages)).2.map
        (List.map OutboxMessageModel.to_domain) := by
  induction claims_batches with
  | nil world => exact ⟨rfl, rfl⟩
  | @committing claim rest first claimed committed last messages batches commits claims commit _ inductionHypothesis =>
      rcases claim_batch_executed claims with ⟨table, returned⟩
      have once : committed.tables .outbox_messages = ((first.tables .outbox_messages).claim_once
          (Query.claimable_messages now max_attempts).condition (Query.claimable_messages now max_attempts).before
          (claim.claimer now)).1 := by
        rw [commit_executed commit, table, claim_once]
        simp only [WorkerClaim.claimer, commits, if_true]
      rw [once] at inductionHypothesis
      exact ⟨inductionHypothesis.1, congrArg₂ List.cons returned inductionHypothesis.2⟩
  | @holding claim rest first claimed last messages batches holds claims _ inductionHypothesis =>
      rcases claim_batch_executed claims with ⟨table, returned⟩
      have once : claimed.tables .outbox_messages = ((first.tables .outbox_messages).claim_once
          (Query.claimable_messages now max_attempts).condition (Query.claimable_messages now max_attempts).before
          (claim.claimer now)).1 := by
        rw [table, claim_once]
        simp only [WorkerClaim.claimer, holds, Bool.false_eq_true, if_false]
      rw [once] at inductionHypothesis
      exact ⟨inductionHypothesis.1, congrArg₂ List.cons returned inductionHypothesis.2⟩

theorem CommitsBatches.as_commits (commits_batches : CommitsBatches claims first last) (now : Datetime) :
    last.tables .outbox_messages =
      (first.tables .outbox_messages).commit_all (claims.map (WorkerClaim.claimer now)) := by
  induction commits_batches with
  | nil world => rfl
  | @committed claim rest first last commits _ inductionHypothesis =>
      rw [inductionHypothesis, List.map_cons, commit_all]
      simp only [WorkerClaim.claimer, commits, if_true]
  | @held claim rest first middle last holds commit _ inductionHypothesis =>
      rw [inductionHypothesis, commit_executed commit, List.map_cons, commit_all]
      simp only [WorkerClaim.claimer, holds, Bool.false_eq_true, if_false]

/-! ### The calls return -/

/-- The rows of the outbox fit their columns. -/
def StorableMessages (world : World) : Prop :=
  forall (key : UUID) (row : OutboxMessageModel), (world.cell .outbox_messages key).Carries row -> row.storable = true

/-- A claim and a commit leave every row storable. -/
theorem StorableMessages.executed {run : RunId} {op : Op} {answer : Except Error op.Answer}
    (stored : StorableMessages first) (executed : World.Executed run first op last answer)
    (claims : op = .commit ∨ Exists fun query => Exists fun limit => Exists fun worker_id =>
      op = .update_claimable .outbox_messages query limit (.claim now worker_id)) : StorableMessages last := by
  intro key row carried
  rcases (executed.cell .outbox_messages key).carries carried with old | writes
  · exact stored key row old
  · rcases claims with rfl | ⟨query, limit, worker_id, rfl⟩
    · cases writes <;> contradiction
    · cases writes with
      | claimed _ _ statement time found operation seen selected same =>
          cases operation
          have same : row = (Update.claim now worker_id).values time found := same
          subst same
          exact stored key found (Cell.carries_of_visible seen)
      | _ => contradiction

theorem claim_batch_returns (now : Datetime) (max_attempts : Int) (accepting : first.refusing claim.run = false)
    (stored : StorableMessages first) : exists messages claimed, Executes claim.run
      (SqlAlchemyOutboxRepository.claim_batch claim.limit now claim.worker_id max_attempts) first (.ok messages) claimed ∧
        StorableMessages claimed ∧ claimed.refusing = first.refusing := by
  have nonnegative : ¬ (claim.limit : Int) < 0 := Int.not_lt.mpr (Int.natCast_nonneg claim.limit)
  have fits : ((first.tables .outbox_messages).updateClaimable claim.run
      (Query.claimable_messages now max_attempts).condition (Query.claimable_messages now max_attempts).before
      claim.limit ((Update.claim now claim.worker_id).values 0)).2.all Row.storable = true := by
    refine List.all_eq_true.mpr (fun row listed => ?_)
    rcases Table.mem_updateClaimable_rows.mp listed with ⟨key, found, claimed, rfl⟩
    exact stored key found (Cell.carries_of_visible (Table.mem_claimable claimed).1)
  have executed : Exists fun claimed => Exists fun rows => claimed.refusing = first.refusing ∧
      World.exec claim.run (.update_claimable .outbox_messages (.claimable_messages now max_attempts) claim.limit
        (.claim now claim.worker_id)) (.calm 0 0) first = some (claimed, .ok rows) := by
    simp only [World.exec, World.exec_update_claimable, World.statement, accepting, Bool.false_eq_true, if_false,
      World.limited, nonnegative, Int.toNat_natCast, Choice.calm]
    refine ⟨_, _, ?_, if_pos fits⟩
    rfl
  rcases executed with ⟨claimed, rows, refusing, executed⟩
  exact ⟨_, claimed, executes_returning.mpr ⟨_, rows, executed, rfl⟩,
    stored.executed (World.exec_executed executed) (.inr ⟨_, _, _, rfl⟩), refusing⟩

theorem commit_returns {run : RunId} (accepting : first.refusing run = false) (stored : StorableMessages first) :
    Exists fun last => Executes run (await .commit) first (.ok ()) last ∧ StorableMessages last ∧
      last.refusing = first.refusing := by
  have executed : World.exec run .commit (.calm 0 0) first = some (first.commit run, .ok ()) := by
    simp only [World.exec, World.exec_commit, accepting, Bool.false_eq_true, if_false]
    rfl
  exact ⟨_, executes_await.mpr ⟨_, executed⟩,
    @StorableMessages.executed 0 first _ run .commit _ stored (World.exec_executed executed) (.inl rfl), rfl⟩

theorem commits_batches_return (claims : List WorkerClaim)
    (accepting : forall claim, claim ∈ claims -> first.refusing claim.run = false) (stored : StorableMessages first) :
    Exists fun last => CommitsBatches claims first last := by
  induction claims generalizing first with
  | nil => exact ⟨first, .nil first⟩
  | cons claim rest inductionHypothesis =>
      have others : forall other, other ∈ rest -> first.refusing other.run = false :=
        fun other listed => accepting other (List.mem_cons_of_mem _ listed)
      cases commits : claim.commits with
      | true =>
          rcases inductionHypothesis others stored with ⟨last, later⟩
          exact ⟨last, .committed commits later⟩
      | false =>
          rcases commit_returns (accepting claim List.mem_cons_self) stored with ⟨middle, commit, stored', refusing⟩
          rcases inductionHypothesis (fun other listed => (congrFun refusing _).trans (others other listed)) stored' with
            ⟨last, later⟩
          exact ⟨last, .held commits commit later⟩

/-- No call of a working session has to wait or fails on its own. -/
theorem claims_batches_return (now : Datetime) (max_attempts : Int) (claims : List WorkerClaim)
    (accepting : forall claim, claim ∈ claims -> first.refusing claim.run = false) (stored : StorableMessages first) :
    exists batches claimed, ClaimsBatches now max_attempts claims first batches claimed ∧ StorableMessages claimed ∧
      claimed.refusing = first.refusing := by
  induction claims generalizing first with
  | nil => exact ⟨[], first, .nil first, stored, rfl⟩
  | cons claim rest inductionHypothesis =>
      have others : forall other, other ∈ rest -> first.refusing other.run = false :=
        fun other listed => accepting other (List.mem_cons_of_mem _ listed)
      rcases claim_batch_returns now max_attempts (accepting claim List.mem_cons_self) stored with
        ⟨messages, claimed, claims, stored', refusing⟩
      cases commits : claim.commits with
      | true =>
          rcases commit_returns ((congrFun refusing _).trans (accepting claim List.mem_cons_self)) stored' with
            ⟨committed, commit, stored'', refusing'⟩
          have same := refusing'.trans refusing
          rcases inductionHypothesis (fun other listed => (congrFun same _).trans (others other listed)) stored'' with
            ⟨batches, last, later, stored, refusing⟩
          exact ⟨_, last, .committing commits claims commit later, stored, refusing.trans same⟩
      | false =>
          rcases inductionHypothesis (fun other listed => (congrFun refusing _).trans (others other listed)) stored' with
            ⟨batches, last, later, stored, refusing'⟩
          exact ⟨_, last, .holding commits claims later, stored, refusing'.trans refusing⟩

end

/-! ## The order of the claims -/

structure Eligible (table : OutboxTable) (now : Datetime) (max_attempts : Int) (key : UUID)
    (row : OutboxMessageModel) : Prop where
  unlocked : table.cell key = ⟨some row, none⟩
  pending : row.status = .PENDING
  unprocessed : row.processed_at = none
  attempts : (row.attempts : Int) < max_attempts
  due : row.next_retry_at = none ∨ Exists fun time => row.next_retry_at = some time ∧ time ≤ now

/-- The order by `created_at`, with `id` for rows of the same time. -/
def Earlier (left right : OutboxMessageModel) : Prop :=
  left.created_at < right.created_at ∨ left.created_at = right.created_at ∧ left.id < right.id

/-- The first eligible rows, as many as the limit allows. -/
structure FirstEligible (table : OutboxTable) (now : Datetime) (max_attempts : Int) (limit : Nat)
    (first : List (UUID × OutboxMessageModel)) : Prop where
  eligible : forall entry, entry ∈ first -> Eligible table now max_attempts entry.1 entry.2
  ordered : first.Pairwise (fun left right => Earlier left.2 right.2)
  limited : first.length ≤ limit
  complete : forall key row, Eligible table now max_attempts key row -> (key, row) ∈ first ∨
    first.length = limit ∧ forall entry, entry ∈ first -> Earlier entry.2 row

variable {table : OutboxTable} {now : Datetime} {max_attempts : Int}

/-- Rows are stored under their primary keys. -/
def Keyed (table : OutboxTable) : Prop :=
  forall key row, (table.cell key).committed = some row -> row.id = key

theorem due_iff {next_retry_at : Option Datetime} : retry_is_due next_retry_at now = true <->
    next_retry_at = none ∨ Exists fun time => next_retry_at = some time ∧ time ≤ now := by
  cases next_retry_at with
  | none => exact iff_of_true rfl (.inl rfl)
  | some time => simp [retry_is_due]

theorem eligible_iff {entry : UUID × OutboxMessageModel} :
    entry ∈ table.available (Query.claimable_messages now max_attempts).condition <->
      Eligible table now max_attempts entry.1 entry.2 := by
  rw [mem_available]
  constructor
  · rintro ⟨unlocked, selected⟩
    simp only [Query.condition, Bool.and_eq_true, decide_eq_true_eq, Option.isNone_iff_eq_none] at selected
    rcases selected with ⟨⟨⟨pending, unprocessed⟩, attempts⟩, due⟩
    exact ⟨unlocked, pending, unprocessed, attempts, due_iff.mp due⟩
  · intro eligible
    refine ⟨eligible.unlocked, ?_⟩
    simp only [Query.condition, Bool.and_eq_true, decide_eq_true_eq, Option.isNone_iff_eq_none]
    exact ⟨⟨⟨eligible.pending, eligible.unprocessed⟩, eligible.attempts⟩, due_iff.mpr eligible.due⟩

theorem before_iff {left right : OutboxMessageModel} :
    (Query.claimable_messages now max_attempts).before left right = true <->
      left.created_at < right.created_at ∨ left.created_at = right.created_at ∧ left.id ≤ right.id := by
  simp only [Query.before, Bool.or_eq_true, Bool.and_eq_true, decide_eq_true_eq]

theorem claim_orders : Table.Orders (Query.claimable_messages now max_attempts).before := by
  constructor
  · intro left right
    rw [before_iff, before_iff]
    rcases lt_trichotomy left.created_at right.created_at with earlier | same | later
    · exact .inl (.inl earlier)
    · rcases Nat.le_total left.id right.id with below | above
      · exact .inl (.inr ⟨same, below⟩)
      · exact .inr (.inr ⟨same.symm, above⟩)
    · exact .inr (.inl later)
  · intro first second third
    rw [before_iff, before_iff, before_iff]
    rintro (earlier | ⟨same, below⟩) (earlier' | ⟨same', below'⟩)
    · exact .inl (earlier.trans earlier')
    · exact .inl (same' ▸ earlier)
    · exact .inl (same ▸ earlier')
    · exact .inr ⟨same.trans same', below.trans below'⟩

/-- Rows that come before each other have one primary key. -/
theorem claim_ranked (keyed : Keyed table) :
    Ranked (Query.claimable_messages now max_attempts).condition
      (Query.claimable_messages now max_attempts).before table := by
  intro left right listed listed' forward backward
  rw [before_iff] at forward backward
  have unlocked := (mem_available.mp listed).1
  have unlocked' := (mem_available.mp listed').1
  have left_key : left.2.id = left.1 := keyed left.1 left.2 (congrArg Cell.committed unlocked)
  have right_key : right.2.id = right.1 := keyed right.1 right.2 (congrArg Cell.committed unlocked')
  have ids : left.2.id = right.2.id := by
    rcases forward with earlier | ⟨same, below⟩
    · rcases backward with later | ⟨same, _⟩
      · exact absurd later earlier.asymm
      · exact absurd same earlier.ne'
    · rcases backward with later | ⟨_, above⟩
      · exact absurd same later.ne'
      · exact Nat.le_antisymm below above
  have keys : left.1 = right.1 := left_key.symm.trans (ids.trans right_key)
  have rows : left.2 = right.2 := by
    rw [keys, unlocked'] at unlocked
    exact (Option.some.inj (congrArg Cell.committed unlocked)).symm
  exact Prod.ext keys rows

/-- The due messages in the order of the claims. -/
def due_messages (now : Datetime) (max_attempts : Int) (table : OutboxTable) : List (UUID × OutboxMessageModel) :=
  table.queue (Query.claimable_messages now max_attempts).condition (Query.claimable_messages now max_attempts).before

theorem due_messages_sorted (keyed : Keyed table) :
    (due_messages now max_attempts table).Pairwise (fun left right => Earlier left.2 right.2) := by
  have distinct : (due_messages now max_attempts table).Nodup := List.Nodup.of_map _ (table.queue_nodup _ _)
  refine ((queue_sorted claim_orders table).and distinct).imp_of_mem (fun listed listed' both => ?_)
  rcases before_iff.mp both.1 with earlier | ⟨same, below⟩
  · exact .inl earlier
  · refine .inr ⟨same, lt_of_le_of_ne below (fun equal => both.2 ?_)⟩
    exact claim_ranked keyed _ _ ((List.mem_insertionSort _).mp listed) ((List.mem_insertionSort _).mp listed')
      both.1 (before_iff.mpr (.inr ⟨same.symm, equal.ge⟩))

/-- The front of the queue consists of the first eligible rows. -/
theorem first_eligible (keyed : Keyed table) (limit : Nat) :
    FirstEligible table now max_attempts limit ((due_messages now max_attempts table).take limit) := by
  have member {entry : UUID × OutboxMessageModel} : entry ∈ due_messages now max_attempts table <->
      Eligible table now max_attempts entry.1 entry.2 := (List.mem_insertionSort _).trans eligible_iff
  have sorted := @due_messages_sorted table now max_attempts keyed
  refine ⟨fun entry listed => member.mp (List.mem_of_mem_take listed),
    sorted.sublist (List.take_sublist _ _), List.length_take_le _ _, fun key row eligible => ?_⟩
  have listed : (key, row) ∈ due_messages now max_attempts table := member.mpr eligible
  rw [← List.take_append_drop limit (due_messages now max_attempts table)] at listed sorted
  rcases List.mem_append.mp listed with front | rest
  · exact .inl front
  · refine .inr ⟨?_, fun entry ahead => (List.pairwise_append.mp sorted).2.2 entry ahead (key, row) rest⟩
    have longer := List.length_pos_of_mem rest
    rw [List.length_drop] at longer
    rw [List.length_take]
    omega

/-! ## Claims that are split -/

def without_owner (row : OutboxMessageModel) : OutboxMessageModel :=
  { row with claimed_by := none }

/-- A claimed row, apart from its owner. -/
def claimed_row (now : Datetime) (row : OutboxMessageModel) : OutboxMessageModel :=
  { row with status := .PROCESSING, claimed_at := some now, claimed_by := none, attempts := row.attempts + 1 }

/-- Sessions of their own, with no locks in the table. -/
structure OwnSessions (claims : List WorkerClaim) (table : OutboxTable) : Prop where
  distinct : (claims.map WorkerClaim.run).Nodup
  unlocked : forall claim, claim ∈ claims -> forall key, ¬ (table.cell key).HeldBy claim.run

/-- The claims took these rows, in this order, and left the others alone. -/
structure Took (table : OutboxTable) (now : Datetime) (max_attempts : Int) (claims : List WorkerClaim)
    (first : List (UUID × OutboxMessageModel)) : Prop where
  returned : (claim_batches now max_attempts claims table).2.flatten.map without_owner =
    first.map (fun entry => claimed_row now entry.2)
  disjoint : ((claim_batches now max_attempts claims table).2.flatten.map OutboxMessageModel.id).Nodup
  /-- After the commits the claimed rows differ in their owners only. -/
  taken : forall entry, entry ∈ first -> Exists fun row =>
    (committed_batches now max_attempts claims table).cell entry.1 = ⟨some row, none⟩ ∧
      without_owner row = claimed_row now entry.2
  others : forall key, key ∉ first.map Prod.fst ->
    (claim_batches now max_attempts claims table).1.cell key = table.cell key ∧
      (committed_batches now max_attempts claims table).cell key = table.cell key

variable {claims : List WorkerClaim}

theorem claim_holders (now : Datetime) (claims : List WorkerClaim) :
    (claims.map (WorkerClaim.claimer now)).map Claimer.holder = claims.map WorkerClaim.run := by
  rw [List.map_map]
  rfl

theorem claim_limits (now : Datetime) (claims : List WorkerClaim) :
    (claims.map (WorkerClaim.claimer now)).map Claimer.limit = claims.map WorkerClaim.limit := by
  rw [List.map_map]
  rfl

theorem OwnSessions.claiming (fresh : OwnSessions claims table) :
    Claiming (Query.claimable_messages now max_attempts).condition (claims.map (WorkerClaim.claimer now)) table where
  distinct := by
    rw [claim_holders]
    exact fresh.distinct
  fresh := by
    intro claimer listed
    rcases List.mem_map.mp listed with ⟨claim, claimed, rfl⟩
    exact fresh.unlocked claim claimed
  changed := by
    intro claimer listed row _
    rcases List.mem_map.mp listed with ⟨claim, _, rfl⟩
    simp [WorkerClaim.claimer, Update.values, Query.condition]

/-- The claims together take the first eligible rows. -/
theorem OwnSessions.took (fresh : OwnSessions claims table) (keyed : Keyed table) :
    Took table now max_attempts claims
      ((due_messages now max_attempts table).take (claims.map WorkerClaim.limit).sum) := by
  have claimed := claim_all_claimed claim_orders (claim_ranked keyed)
    (@OwnSessions.claiming table now max_attempts claims fresh)
  have keys := shares_keys (claims.map (WorkerClaim.claimer now)) (due_messages now max_attempts table)
  have alike : forall claimer, claimer ∈ claims.map (WorkerClaim.claimer now) -> forall row,
      without_owner (claimer.values row) = claimed_row now row := by
    intro claimer listed row
    rcases List.mem_map.mp listed with ⟨claim, _, rfl⟩
    rfl
  have shown := shares_map alike (due_messages now max_attempts table)
  rw [claim_limits] at keys shown
  have nodup : ((due_messages now max_attempts table).map Prod.fst).Nodup := table.queue_nodup _ _
  refine ⟨?_, ?_, ?_, ?_⟩
  · have rows := congrArg (List.map Prod.snd) shown
    rw [List.map_map, List.map_map] at rows
    rw [claim_batches, claimed.rows, List.map_map]
    exact rows
  · -- The keys of the rows are their identifiers, before and after a claim.
    have ids : (claim_batches now max_attempts claims table).2.flatten.map OutboxMessageModel.id =
        ((due_messages now max_attempts table).take (claims.map WorkerClaim.limit).sum).map Prod.fst := by
      have identified := congrArg (List.map (fun entry => OutboxMessageModel.id entry.2)) shown
      rw [List.map_map, List.map_map] at identified
      rw [claim_batches, claimed.rows, List.map_map]
      refine Eq.trans identified (List.map_congr_left (fun entry listed => ?_))
      have eligible := (first_eligible keyed _).eligible entry listed
      exact keyed entry.1 entry.2 (congrArg Cell.committed eligible.unlocked)
    rw [ids]
    exact nodup.sublist ((List.take_sublist _ _).map _)
  · intro entry listed
    have found : (entry.1, claimed_row now entry.2) ∈
        ((due_messages now max_attempts table).take (claims.map WorkerClaim.limit).sum).map
          (fun entry => (entry.1, claimed_row now entry.2)) := List.mem_map_of_mem listed
    rw [← shown] at found
    rcases List.mem_map.mp found with ⟨⟨key, row⟩, share, same⟩
    cases (Prod.mk.inj same).1
    exact ⟨row, commit_all_taken (claimed.taken _ share), (Prod.mk.inj same).2⟩
  · intro key free
    have kept : (claim_batches now max_attempts claims table).1.cell key = table.cell key :=
      claimed.others key (keys ▸ free)
    refine ⟨kept, (commit_all_kept (fun claimer listed => ?_)).trans kept⟩
    rcases List.mem_map.mp listed with ⟨claim, named, rfl⟩
    exact kept.symm ▸ fresh.unlocked claim named key

/-! ## The messages and rows of the calls -/

def unowned (message : OutboxMessage) : OutboxMessage :=
  { message with claimed_by := none }

/-- The calls have claimed these rows, in this order, and the table after them
and after all the commits differs in them only. -/
structure Drained (now : Datetime) (first : List (UUID × OutboxMessageModel)) (before : World)
    (batches : List (List OutboxMessage)) (claimed committed : World) : Prop where
  returned : batches.flatten.map unowned = first.map (fun entry => (claimed_row now entry.2).to_domain)
  disjoint : (batches.flatten.map OutboxMessage.id).Nodup
  taken : forall entry, entry ∈ first -> Exists fun row =>
    committed.cell .outbox_messages entry.1 = ⟨some row, none⟩ ∧ without_owner row = claimed_row now entry.2
  others : forall key, key ∉ first.map Prod.fst ->
    claimed.cell .outbox_messages key = before.cell .outbox_messages key ∧
      committed.cell .outbox_messages key = before.cell .outbox_messages key

theorem Took.drained {before claimed committed : World} {batches : List (List OutboxMessage)}
    {first : List (UUID × OutboxMessageModel)}
    (took : Took (before.tables .outbox_messages) now max_attempts claims first)
    (claims_batches : ClaimsBatches now max_attempts claims before batches claimed)
    (commits_batches : CommitsBatches claims claimed committed) : Drained now first before batches claimed committed := by
  rcases claims_batches.as_claims with ⟨table, returned⟩
  have ended : committed.tables .outbox_messages =
      committed_batches now max_attempts claims (before.tables .outbox_messages) := by
    rw [commits_batches.as_commits now, table]
    rfl
  subst returned
  refine ⟨?_, ?_, fun entry listed => ?_, fun key free => ?_⟩
  · have messages := congrArg (List.map OutboxMessageModel.to_domain) took.returned
    rw [List.map_map, List.map_map] at messages
    rw [← List.map_flatten, List.map_map]
    exact messages
  · have ids := took.disjoint
    rw [← List.map_flatten, List.map_map]
    exact ids
  · rw [World.cell, ended]
    exact took.taken entry listed
  · have kept := took.others key free
    change (claimed.tables .outbox_messages).cell key = (before.tables .outbox_messages).cell key ∧
      (committed.tables .outbox_messages).cell key = (before.tables .outbox_messages).cell key
    rw [ended, table]
    exact kept

/-- Calls of `claim_batch` by any number of workers and one call with the sum
of their limits claim the same messages, which are the first eligible ones, and
the tables they leave agree up to the owners. -/
theorem split_claims {world claimed committed claimed' committed' : World} (keyed : World.Keyed world) {now : Datetime}
    {max_attempts : Int} {claims : List WorkerClaim} (fresh : OwnSessions claims (world.tables .outbox_messages))
    {batches batches' : List (List OutboxMessage)} (claiming : ClaimsBatches now max_attempts claims world batches claimed)
    (committing : CommitsBatches claims claimed committed) {single : WorkerClaim}
    (alone : OwnSessions [single] (world.tables .outbox_messages))
    (whole : single.limit = (claims.map WorkerClaim.limit).sum)
    (claiming' : ClaimsBatches now max_attempts [single] world batches' claimed')
    (committing' : CommitsBatches [single] claimed' committed') :
    (Exists fun first => FirstEligible (world.tables .outbox_messages) now max_attempts single.limit first ∧
      Drained now first world batches claimed committed ∧ Drained now first world batches' claimed' committed') ∧
    forall key, (committed.cell .outbox_messages key).lock = (committed'.cell .outbox_messages key).lock ∧
      (committed.cell .outbox_messages key).committed.map without_owner =
        (committed'.cell .outbox_messages key).committed.map without_owner := by
  have keyed : Keyed (world.tables .outbox_messages) :=
    fun key row found => keyed .outbox_messages key row (.committed found)
  have split : Took (world.tables .outbox_messages) now max_attempts claims
      ((due_messages now max_attempts (world.tables .outbox_messages)).take single.limit) := whole ▸ fresh.took keyed
  have once : Took (world.tables .outbox_messages) now max_attempts [single]
      ((due_messages now max_attempts (world.tables .outbox_messages)).take single.limit) := by
    have took := @OwnSessions.took (world.tables .outbox_messages) now max_attempts [single] alone keyed
    rwa [List.map_singleton, List.sum_singleton] at took
  have split := split.drained claiming committing
  have once := once.drained claiming' committing'
  refine ⟨⟨_, first_eligible keyed single.limit, split, once⟩, fun key => ?_⟩
  by_cases taken : key ∈ ((due_messages now max_attempts (world.tables .outbox_messages)).take single.limit).map Prod.fst
  · rcases List.mem_map.mp taken with ⟨entry, listed, rfl⟩
    rcases split.taken entry listed with ⟨row, cell, shown⟩
    rcases once.taken entry listed with ⟨row', cell', shown'⟩
    rw [cell, cell']
    exact ⟨rfl, congrArg some (shown.trans shown'.symm)⟩
  · rw [(split.others key taken).2, (once.others key taken).2]
    exact ⟨rfl, rfl⟩

/-- A message that waits for its first claim. -/
def waiting_message (id : UUID) (created_at : Datetime) : OutboxMessageModel :=
  OutboxMessageModel.of_event id (.PaymentProcessingStarted 2 created_at none)

/-- Two messages that were created at the same time. -/
def two_messages : World :=
  World.initial.set_table .outbox_messages
    (((Table.empty.put 0 1 (waiting_message 1 4)).put 0 2 (waiting_message 2 4)).commit 0)

theorem two_messages_cell (key : UUID) : two_messages.cell .outbox_messages key = Cell.vacant ∨
    Exists fun id : UUID => two_messages.cell .outbox_messages key = ⟨some (waiting_message id 4), none⟩ ∧ id = key := by
  by_cases second : key = 2
  · subst second
    exact .inr ⟨2, rfl, rfl⟩
  · by_cases first : key = 1
    · subst first
      exact .inr ⟨1, rfl, rfl⟩
    · refine .inl ?_
      simp [two_messages, World.cell, World.set_table_self, Table.commit, Table.mapCells, Table.put, Table.empty, second,
        first, Cell.commit, Cell.vacant]

theorem two_messages_carried {name : TableName} {key : UUID} {row : Row name}
    (carried : (two_messages.cell name key).Carries row) :
    Exists fun id : UUID => HEq row (waiting_message id 4) ∧ name = .outbox_messages ∧ id = key := by
  by_cases outbox : name = .outbox_messages
  · subst outbox
    rcases two_messages_cell key with empty | ⟨id, cell, same⟩
    · rw [empty] at carried
      cases carried <;> contradiction
    · rw [cell] at carried
      cases carried with
      | committed found =>
          cases found
          exact ⟨id, .rfl, rfl, same⟩
      | draft found => cases found
  · have empty : two_messages.cell name key = Cell.vacant := by
      rw [World.cell, two_messages, World.set_table_of_ne _ outbox]
      rfl
    rw [empty] at carried
    cases carried <;> contradiction

theorem two_messages_fresh {claims : List WorkerClaim} (distinct : (claims.map WorkerClaim.run).Nodup) :
    OwnSessions claims (two_messages.tables .outbox_messages) := by
  refine ⟨distinct, fun claim _ key => ?_⟩
  rcases two_messages_cell key with empty | ⟨id, cell, _⟩
  · change ¬ (two_messages.cell .outbox_messages key).HeldBy claim.run
    rw [empty]
    rintro ⟨draft, impossible⟩
    cases impossible
  · change ¬ (two_messages.cell .outbox_messages key).HeldBy claim.run
    rw [cell]
    rintro ⟨draft, impossible⟩
    cases impossible

theorem two_messages_stored : World.Keyed two_messages ∧ StorableMessages two_messages := by
  constructor
  · intro name key row carried
    rcases two_messages_carried carried with ⟨id, same, rfl, rfl⟩
    cases same
    rfl
  · intro key row carried
    rcases two_messages_carried carried with ⟨id, same, _, rfl⟩
    cases same
    have fits : (decide ("PaymentProcessingStarted".length ≤ 64) && true) = true := by decide +kernel
    exact fits

/-- One worker still holds its lock when the other one claims. -/
theorem two_messages_split : exists batches claimed committed batches' claimed' committed' first,
    ClaimsBatches 9 5 [⟨1, 10, 1, false⟩, ⟨2, 11, 1, true⟩] two_messages batches claimed ∧
      FirstEligible (two_messages.tables .outbox_messages) 9 5 2 first ∧
      Drained 9 first two_messages batches claimed committed ∧
      ClaimsBatches 9 5 [⟨3, 12, 2, true⟩] two_messages batches' claimed' ∧
      Drained 9 first two_messages batches' claimed' committed' := by
  rcases two_messages_stored with ⟨keyed, stored⟩
  have accepting : forall run, two_messages.refusing run = false := fun _ => rfl
  rcases claims_batches_return 9 5 [⟨1, 10, 1, false⟩, ⟨2, 11, 1, true⟩] (fun claim _ => accepting claim.run) stored with
    ⟨batches, claimed, claiming, stored', refusing⟩
  rcases commits_batches_return [⟨1, 10, 1, false⟩, ⟨2, 11, 1, true⟩]
    (fun claim _ => (congrFun refusing _).trans (accepting claim.run)) stored' with ⟨committed, committing⟩
  rcases claims_batches_return 9 5 [⟨3, 12, 2, true⟩] (fun claim _ => accepting claim.run) stored with
    ⟨batches', claimed', claiming', stored', refusing'⟩
  rcases commits_batches_return [⟨3, 12, 2, true⟩]
    (fun claim _ => (congrFun refusing' _).trans (accepting claim.run)) stored' with ⟨committed', committing'⟩
  rcases (split_claims keyed (two_messages_fresh (by decide)) claiming committing (two_messages_fresh (by decide)) rfl
    claiming' committing').1 with ⟨first, eligible, drained, drained'⟩
  exact ⟨batches, claimed, committed, batches', claimed', committed', first, claiming, eligible, drained, claiming',
    drained'⟩

end Properties
end Payments
