import Mathlib.Data.Finset.Card
import Mathlib.Order.Interval.Finset.Nat
import Payments.Properties.OutboxCycles

namespace Payments
namespace Properties

open Concurrency Domain Infrastructure Application Payments.System

/-!
# Fencing and accounting of outbox claims

What the discipline of outbox leases means for the whole service, in any
interleaving of any number of workers and other runs, with crashes, expired
leases and aborted transactions.
-/

variable {deployment : Deployment} {world after : World} {run : RunId}

/-! ## Marks are fenced -/

/-- A changed cell shows which row the update has selected. -/
theorem selected_of_changed {statement : Update .outbox_messages}
    {answer : Except Error (List OutboxMessageModel)} {key : UUID}
    (executed : World.Executed run world (.update .outbox_messages statement) after answer)
    (changed : after.cell .outbox_messages key ≠ world.cell .outbox_messages key) :
    Exists fun row => Exists fun time => (world.cell .outbox_messages key).visible run = some row ∧
      statement.condition row = true ∧
      after.cell .outbox_messages key =
        (world.cell .outbox_messages key).write run (some (statement.values time row)) := by
  cases executed.cell .outbox_messages key with
  | kept same => exact absurd same changed
  | updated found time row operation seen selected free same =>
      cases operation
      exact ⟨row, time, seen, selected, same⟩
  | locked _ _ _ operation => cases operation
  | claimed _ _ _ _ _ operation => cases operation
  | deleted _ _ operation => cases operation
  | added _ operation => cases operation
  | inserted _ operation => cases operation
  | committed operation => cases operation
  | released operation =>
      rcases operation with impossible | impossible
      · cases impossible
      · cases impossible

/-- A row that a worker owns while it has claimed nothing in its transaction is
committed. -/
theorem Owns.committed {key : UUID} {row : OutboxMessageModel} (owns : Owns run key row world)
    (unleased : Unleased run world) : (world.cell .outbox_messages key).committed = some row := by
  by_cases held : (world.cell .outbox_messages key).HeldBy run
  · rcases held with ⟨draft, locked⟩
    have seen := owns.seen
    rw [Cell.visible_of_lock locked] at seen
    subst seen
    exact absurd owns.status (unleased key row locked)
  · exact (Cell.visible_of_not_heldBy held).symm.trans owns.seen

/-- Whenever a mark of a worker changes a row, the row is as the last commit of
this worker has claimed it, in the same cycle, and the recorded result is the
result of the publish made under this claim.  The worker's decision to retry a
failed message agrees with the decision of the statement. -/
theorem marks_fenced {state next : (service deployment).State} {worker : RunId}
    {statement : Update .outbox_messages} {choice : Choice} {key : UUID}
    (reached : Machine.Reachable (fun _ _ => True) World.initial state)
    (pending : state.pending worker = some (.update .outbox_messages statement))
    (taken : Machine.step state (.perform worker choice) = some next)
    (changed : next.shared.cell .outbox_messages key ≠ state.shared.cell .outbox_messages key) :
    (forall message_id worker_id, statement = .mark_processed message_id worker_id ->
      message_id = key ∧ worker_id = worker ∧ Exists fun row =>
        (state.shared.cell .outbox_messages key).committed = some row ∧
          Current worker key row state.shared ∧
          (.environment, .publish_confirmed worker row.to_domain) ∈ state.shared.trace) ∧
    (forall message_id worker_id limit next_retry_at,
      statement = .mark_publish_failure message_id worker_id limit next_retry_at ->
      message_id = key ∧ worker_id = worker ∧ Exists fun row => Exists fun message => Exists fun marked =>
        (state.shared.cell .outbox_messages key).committed = some row ∧
          Current worker key row state.shared ∧
          (.environment, .publish_failed worker message) ∈ state.shared.trace ∧
          message = row.to_domain ∧ message.attempts = row.attempts ∧
          (next.shared.cell .outbox_messages key).lock = some (worker, some marked) ∧
          (next_retry_at = none <-> limit ≤ message.attempts) ∧
          (next_retry_at = none <-> marked.status = .DEAD) ∧
          (marked.status = .PENDING -> marked.next_retry_at ≠ none)) := by
  rcases Machine.State.running_of_pending pending with ⟨job, rest, running⟩
  have kept := (outbox_verified deployment).invariant reached
  have permits : LeasePermits deployment worker (.update .outbox_messages statement) state.shared :=
    (outbox_verified deployment).permitted reached running
  rcases Machine.exec_of_pending pending taken with ⟨answer, ran⟩
  rcases selected_of_changed (service_executed ran) changed with ⟨row, time, seen, selected, written⟩
  have own : row.id = key := kept.keyed .outbox_messages key row (Cell.carries_of_visible seen)
  have unleased := permits.unleased statement rfl
  constructor
  · rintro message_id worker_id rfl
    simp only [Update.condition, Update.owned, Bool.and_eq_true, decide_eq_true_eq] at selected
    rcases selected with ⟨⟨named, processing⟩, claimed_by⟩
    have named : message_id = key := named.symm.trans own
    subst named
    rcases permits.marking message_id worker_id rfl with ⟨rfl, fenced⟩
    have owns : Owns worker_id message_id row state.shared := ⟨seen, processing, claimed_by⟩
    exact ⟨rfl, rfl, row, owns.committed unleased, fenced row owns⟩
  · rintro message_id worker_id limit next_retry_at rfl
    simp only [Update.condition, Update.owned, Bool.and_eq_true, decide_eq_true_eq] at selected
    rcases selected with ⟨⟨named, processing⟩, claimed_by⟩
    have named : message_id = key := named.symm.trans own
    subst named
    rcases permits.failing message_id worker_id limit next_retry_at rfl with ⟨rfl, fenced⟩
    have owns : Owns worker_id message_id row state.shared := ⟨seen, processing, claimed_by⟩
    rcases fenced row owns with ⟨current, failed, decided⟩
    refine ⟨rfl, rfl, row, row.to_domain, _, owns.committed unleased, current, failed, rfl, rfl,
      congrArg Cell.lock written, decided, ?_, ?_⟩
    · rw [decided]
      change limit ≤ row.attempts <-> (if Update.exceeded row limit then OutboxStatus.DEAD else .PENDING) = .DEAD
      by_cases reached : limit ≤ row.attempts
      · simp [Update.exceeded, reached]
      · simp [Update.exceeded, reached]
    · intro retried none
      change (if Update.exceeded row limit then OutboxStatus.DEAD else .PENDING) = .PENDING at retried
      change (if Update.exceeded row limit then Option.none else next_retry_at) = Option.none at none
      by_cases reached : limit ≤ row.attempts
      · simp [Update.exceeded, reached] at retried
      · simp only [Update.exceeded, reached, decide_false, Bool.false_eq_true, if_false] at none
        exact reached (decided.mp none)

/-- A deployment whose outbox workers all give up after five attempts. -/
def five_attempts : Deployment where
  outbox_settings := fun settings => decide (settings.OUTBOX_MAX_ATTEMPTS = 5)
  retry_policy := .of_defaults

def ten_dollars : CreatePaymentCommand where
  idempotency_key := "key"
  amount := .finite false 10 0
  currency := "USD"
  description := none
  metadata := .null
  webhook_url := "https://merchant"
  correlation_id := none

/-- Run 0 creates a payment with the outbox message 2, and worker 1 claims and
publishes this message. -/
def claim_and_publish (confirmed : Bool) : List (service five_attempts).Action :=
  [.start 0 (.create ten_dollars), .perform 0 (.calm 0 0), .perform 0 (.calm 0 1), .perform 0 (.calm 0 0),
    .perform 0 (.calm 0 2), .perform 0 (.calm 0 0), .perform 0 (.calm 0 0), .perform 0 (.calm 0 0),
    .start 1 (.outbox {} 1), .perform 1 (.calm 10 0), .perform 1 (.calm 10 0), .perform 1 (.calm 10 0),
    .perform 1 (.calm 10 0), .perform 1 (.calm 10 0), .perform 1 (.calm 10 0), .perform 1 (.calm 10 0),
    .env (.start_publish 1 0), .env (.land_publish 1 0), .env (.finish_publish 1 0 confirmed),
    .perform 1 (.calm 10 0)]

/-- The worker's next operation, and who holds the row before and after it. -/
def next_mark (confirmed : Bool) : Option (Option Op × Option RunId × Option RunId) :=
  (Machine.runFrom (Machine.fresh World.initial) (claim_and_publish confirmed)).bind (fun state =>
    (Machine.step state (.perform 1 (.calm 10 0))).map (fun next =>
      (state.pending 1, ((state.shared.cell .outbox_messages 2).lock.map Prod.fst),
        ((next.shared.cell .outbox_messages 2).lock.map Prod.fst))))

theorem failed_mark_fenced :
    Exists fun state : (service five_attempts).State => Exists fun row => Exists fun message =>
      (state.shared.cell .outbox_messages 2).committed = some row ∧ Current 1 2 row state.shared ∧
        (.environment, .publish_failed 1 message) ∈ state.shared.trace ∧ message.attempts = row.attempts := by
  have marked : next_mark false =
      some (some (.update .outbox_messages (.mark_publish_failure 2 1 5 (some 11))), none, some 1) := by
    with_unfolding_all rfl
  rcases Option.bind_eq_some_iff.mp marked with ⟨state, ran, stepped⟩
  rcases Option.map_eq_some_iff.mp stepped with ⟨next, taken, found⟩
  obtain ⟨pending, before, later⟩ : state.pending 1 = _ ∧ _ = _ ∧ _ = _ := by
    simpa only [Prod.mk.injEq] using found
  have changed : next.shared.cell .outbox_messages 2 ≠ state.shared.cell .outbox_messages 2 := by
    intro same
    rw [same, before] at later
    cases later
  rcases (marks_fenced (Machine.Path.of_runFrom _ ran) pending taken changed).2 2 1 5 (some 11) rfl with
    ⟨_, _, row, message, _, committed, current, failed, _, attempts, _⟩
  exact ⟨state, row, message, committed, current, failed, attempts⟩

/-! ## Publishes are accounted for -/

/-- The claim of the message whose publish has been called, by its attempts. -/
def called_attempts (id : UUID) (event : Event) : Option Nat :=
  match called event with
  | some claim => if claim.id = id then some claim.attempts else none
  | none => none

theorem called_attempts_eq_some {id : UUID} {event : Event} {attempts : Nat} :
    called_attempts id event = some attempts <->
      Exists fun worker => called event = some ⟨worker, id, attempts⟩ := by
  unfold called_attempts
  cases found : called event with
  | none => simp
  | some claim =>
      rcases claim with ⟨worker, id', attempts'⟩
      by_cases same : id' = id
      · subst same
        simp
      · simp [same]

theorem publishes_eq_length (id : UUID) (trace : Trace) :
    publishes id trace = (trace.filterMap (fun entry => called_attempts id entry.2)).length := by
  induction trace with
  | nil => rfl
  | cons entry rest inductionHypothesis =>
      rw [publishes] at inductionHypothesis
      rw [publishes, List.countP_cons, inductionHypothesis, List.filterMap_cons]
      cases found : called entry.2 with
      | none => simp [called_attempts, found]
      | some claim =>
          by_cases same : claim.id = id
          · simp [called_attempts, found, same]
          · simp [called_attempts, found, same]

section Accounts

variable (kept : LeasesKept deployment world)
include kept

/-- A publish that has been called belongs to a committed claim. -/
theorem LeasesKept.taken_of_called {actor : Actor} {event : Event} {claim : ClaimKey}
    (listed : (actor, event) ∈ world.trace) (found : called event = some claim) :
    1 ≤ taken claim world.trace := by
  have counted : 1 ≤ calls claim world.trace :=
    List.countP_pos_iff.mpr ⟨(actor, event), listed, decide_eq_true found⟩
  exact (counted.trans (Nat.le_add_right _ _)).trans (kept.loads claim)

/-- Two publishes of a message with the same attempts belong to one claim. -/
theorem LeasesKept.claim_unique {actor other : Actor} {event event' : Event} {claim claim' : ClaimKey}
    (listed : (actor, event) ∈ world.trace) (found : called event = some claim)
    (listed' : (other, event') ∈ world.trace) (found' : called event' = some claim')
    (id : claim'.id = claim.id) (attempts : claim'.attempts = claim.attempts) : claim' = claim := by
  by_contra different
  have workers : claim'.worker ≠ claim.worker := by
    intro same
    apply different
    rcases claim with ⟨worker, message, number⟩
    rcases claim' with ⟨worker', message', number'⟩
    cases same
    cases id
    cases attempts
    rfl
  have first := kept.taken_of_called listed found
  have second := kept.taken_of_called listed' found'
  have both := taken_add_le id attempts workers world.trace
  have one := kept.once claim.id claim.attempts
  omega

/-- Each claim of a message is published at most once. -/
theorem LeasesKept.count_called (id : UUID) (attempts : Nat) :
    (world.trace.filterMap (fun entry => called_attempts id entry.2)).count attempts ≤ 1 := by
  by_cases listed : attempts ∈ world.trace.filterMap (fun entry => called_attempts id entry.2)
  · rcases List.mem_filterMap.mp listed with ⟨⟨actor, event⟩, member, found⟩
    rcases called_attempts_eq_some.mp found with ⟨worker, named⟩
    have counted : (world.trace.filterMap (fun entry => called_attempts id entry.2)).count attempts =
        calls ⟨worker, id, attempts⟩ world.trace := by
      rw [List.count_eq_countP, List.countP_filterMap, calls]
      refine List.countP_congr (fun entry listed' => ?_)
      rw [decide_eq_true_eq]
      constructor
      · intro counted
        cases found' : called_attempts id entry.2 with
        | none => simp [found'] at counted
        | some number =>
            have same : number = attempts := by simpa [found'] using counted
            subst same
            rcases called_attempts_eq_some.mp found' with ⟨worker', named'⟩
            rw [named', kept.claim_unique member named listed' named' rfl rfl]
      · intro named'
        rw [called_attempts_eq_some.mpr ⟨worker, named'⟩]
        simp
    rw [counted]
    calc calls ⟨worker, id, attempts⟩ world.trace ≤ load ⟨worker, id, attempts⟩ world := Nat.le_add_right _ _
      _ ≤ taken ⟨worker, id, attempts⟩ world.trace := kept.loads _
      _ ≤ claims_at id attempts world.trace := taken_le_claims_at _ _
      _ ≤ 1 := kept.once id attempts
  · exact (List.count_eq_zero_of_not_mem listed).trans_le (Nat.zero_le 1)

theorem LeasesKept.publishes_le (id : UUID) :
    Properties.publishes id world.trace ≤ committed_claims id world.trace := by
  have nodup : (world.trace.filterMap (fun entry => called_attempts id entry.2)).Nodup :=
    List.nodup_iff_count_le_one.mpr (kept.count_called id)
  have within : (world.trace.filterMap (fun entry => called_attempts id entry.2)).toFinset ⊆
      Finset.Icc 1 (committed_claims id world.trace) := by
    intro attempts listed
    rcases List.mem_filterMap.mp (List.mem_toFinset.mp listed) with ⟨⟨actor, event⟩, member, found⟩
    rcases called_attempts_eq_some.mp found with ⟨worker, named⟩
    have claimed : 1 ≤ claims_at id attempts world.trace :=
      (kept.taken_of_called member named).trans (taken_le_claims_at _ _)
    rw [Finset.mem_Icc]
    by_contra outside
    have unused := kept.beyond id attempts (by omega)
    omega
  calc Properties.publishes id world.trace
      = (world.trace.filterMap (fun entry => called_attempts id entry.2)).length := publishes_eq_length id _
    _ = (world.trace.filterMap (fun entry => called_attempts id entry.2)).toFinset.card :=
      (List.toFinset_card_of_nodup nodup).symm
    _ ≤ (Finset.Icc 1 (committed_claims id world.trace)).card := Finset.card_le_card within
    _ = committed_claims id world.trace := by rw [Nat.card_Icc, Nat.add_sub_cancel]

end Accounts

/-- With one fixed bound on the attempts: attempts count committed claims, a
message is published at most once for each of them, a processed message has a
confirmed publish under its last claim, a dead one has used up its attempts,
and a message disappears only after it was processed or dead for long enough. -/
theorem publishing_accounted {max_attempts : Int}
    (fixed : forall settings, deployment.outbox_settings settings = true ->
      settings.OUTBOX_MAX_ATTEMPTS = max_attempts)
    (positive : 1 ≤ max_attempts) {state : (service deployment).State}
    (reached : Machine.Reachable (fun _ _ => True) World.initial state) :
    (forall id row, (state.shared.cell .outbox_messages id).committed = some row ->
      row.attempts = committed_claims id state.shared.trace ∧
      publishes id state.shared.trace ≤ row.attempts ∧ (row.attempts : Int) ≤ max_attempts ∧
      (row.status = .PROCESSED -> Exists fun worker => Exists fun message =>
        (.environment, .publish_confirmed worker message) ∈ state.shared.trace ∧ message.id = id ∧
          message.attempts = row.attempts ∧ message.claimed_by = some worker) ∧
      (row.status = .DEAD -> (row.attempts : Int) = max_attempts)) ∧
    (forall id, publishes id state.shared.trace ≤ committed_claims id state.shared.trace ∧
      (publishes id state.shared.trace : Int) ≤ max_attempts) ∧
    (forall id row later, (state.shared.cell .outbox_messages id).committed = some row ->
      Machine.Path (fun _ _ => True) state later ->
      (later.shared.cell .outbox_messages id).committed = none ->
      Exists fun worker => Exists fun cutoff => Exists fun rows => Exists fun purged =>
        (.run worker, .purged cutoff rows) ∈ later.shared.trace ∧ purged ∈ rows ∧ purged.id = id ∧
          (purged.status = .PROCESSED ∨ purged.status = .DEAD) ∧
          Exists fun finished_at => purged.finished_at = some finished_at ∧ finished_at < cutoff) := by
  have kept := (outbox_verified deployment).invariant reached
  have only : forall limit, Admitted deployment limit -> limit = max_attempts := by
    rintro limit ⟨settings, allowed, rfl⟩
    exact fixed settings allowed
  have claims : forall id, (committed_claims id state.shared.trace : Int) ≤ max_attempts := by
    intro id
    rcases kept.bounded id with zero | ⟨limit, admitted, below⟩
    · omega
    · rwa [only limit admitted] at below
  refine ⟨fun id row same => ?_, fun id => ?_, fun id row later same path gone => ?_⟩
  · have counted := kept.counted id row same
    refine ⟨counted, counted ▸ kept.publishes_le id, counted ▸ claims id,
      kept.confirmed id row (.committed same), fun dead => ?_⟩
    rcases kept.exhausted id row (.committed same) dead with ⟨limit, admitted, reached⟩
    have below := claims id
    rw [only limit admitted] at reached
    omega
  · have below := claims id
    have called := kept.publishes_le id
    exact ⟨called, by omega⟩
  · rcases ((outbox_verified deployment).evolves reached path).removed id row same with present | purged
    · exact absurd gone present
    · rcases purged with ⟨worker, cutoff, rows, purged, recorded, member, own, purgeable⟩
      simp only [Infrastructure.purgeable, Bool.and_eq_true, Bool.or_eq_true, decide_eq_true_eq,
        Option.any_eq_true] at purgeable
      exact ⟨worker, cutoff, rows, purged, recorded, member, own, purgeable.1, purgeable.2⟩

theorem published_once :
    Exists fun state : (service five_attempts).State => Exists fun row =>
      (state.shared.cell .outbox_messages 2).committed = some row ∧
        row.attempts = committed_claims 2 state.shared.trace ∧
        publishes 2 state.shared.trace ≤ row.attempts ∧ (row.attempts : Int) ≤ 5 := by
  have published : (Machine.runFrom (Machine.fresh World.initial) (claim_and_publish true)).map (fun state =>
      (state.shared.cell .outbox_messages 2).committed.map OutboxMessageModel.attempts) = some (some 1) := by
    decide +kernel
  rcases Option.map_eq_some_iff.mp published with ⟨state, ran, found⟩
  rcases Option.map_eq_some_iff.mp found with ⟨row, committed, _⟩
  have fixed : forall settings, five_attempts.outbox_settings settings = true ->
      settings.OUTBOX_MAX_ATTEMPTS = 5 := fun settings allowed => of_decide_eq_true allowed
  rcases (publishing_accounted fixed (by decide) (Machine.Path.of_runFrom _ ran)).1 2 row committed with
    ⟨counted, bounded, below, _⟩
  exact ⟨state, row, committed, counted, bounded, below⟩

end Properties
end Payments
