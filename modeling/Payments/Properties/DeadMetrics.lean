import Mathlib.Algebra.BigOperators.Group.Finset.Piecewise
import Mathlib.Algebra.Order.BigOperators.Group.Finset
import Payments.Properties.DeadTallies
import Payments.System.MeteredService
import Payments.System.Transactions

namespace Payments
namespace Properties

open Concurrency Domain Infrastructure Application Prog UnitOfWork Payments.System

/-!
# The counters of dead messages and the table

The counters of a worker are what its own events say it has counted.  That is a
discipline of the metered service, which also says in which order a worker
releases, counts and commits.  With it the balance of every worker holds in
every run whose steps keep the counters honest.
-/

variable {deployment : Deployment} {world after : World} {run other : RunId} {op : Op}

/-! ## What an operation counts -/

/-- An operation counts when it returns, and not when it raises. -/
theorem counted_executed {answer : Except Error op.Answer} (executed : World.Executed run world op after answer) :
    counted_ids (after.own run) =
      (match answer with
        | .ok _ => gain op (world.own run)
        | .error _ => []) ++ counted_ids (world.own run) := by
  cases executed with
  | updated name statement time table rows changed accepting storable =>
      rw [World.own_note_self]
      rfl
  | claimed name query limit statement time table rows changed accepting =>
      rw [World.own_note_self]
      rfl
  | deleted cutoff table changed accepting =>
      rw [World.own_note_self]
      rfl
  | now reading =>
      rw [World.own_note_self]
      rfl
  | committed answer known accepting =>
      rw [World.own_commit]
      cases answer <;> rfl
  | rolled_back answer known =>
      rw [World.own_rollback]
      cases answer <;> rfl
  | closed answer known => cases answer <;> rfl
  | charge_called payment_id amount idempotency_key =>
      rw [World.own_note_self]
      rfl
  | charge_returned payment_id result =>
      rw [World.own_note_self]
      rfl
  | charge_raised payment_id error known =>
      rw [World.own_note_self]
      rfl
  | sent results quiet ended =>
      rw [World.own_note_self]
      rfl
  | dead_lettered message answer known =>
      rw [World.own_dead_letter]
      cases answer <;> rfl
  | acked message delivered answer known =>
      rw [World.own_acknowledge]
      cases answer <;> rfl
  | nacked message delivered answer known =>
      rw [World.own_reject]
      cases answer <;> rfl
  | _ => rfl

/-! ## The discipline of counting -/

/-- What has to hold when a run executes an operation and counts its answer. -/
structure Counts (metered : Metered signature Metrics) (events : List Event) : Prop where
  counts : forall value meter, (metered.count value meter).dead = meter.dead + (gain metered.op events).length
  tallies : Tallies metered.op events

def metrics_discipline (deployment : Deployment) : Discipline (metered_service deployment) where
  inv := fun state => forall run, (state.2 run).dead = (counted_ids (state.1.own run)).length
  evolves := fun _ _ => True
  frame := fun run before after => after.1.own run = before.1.own run
  permits := fun run metered state => Counts metered (state.1.own run)
  allowed := fun _ _ => True
  evolves_refl := fun _ => trivial
  evolves_trans := fun _ _ => trivial
  frame_refl := fun _ _ => rfl
  frame_trans := fun before after => after.trans before

theorem metrics_upheld (deployment : Deployment) : (metrics_discipline deployment).Upheld metered_initial where
  initially := fun _ => rfl
  starts := by
    rintro run job ⟨world, metrics⟩ state inv started _
    rcases Option.map_eq_some_iff.mp started with ⟨begun, begins, rfl⟩
    rcases start_cases begins with rfl | ⟨settings, message, _, _, rfl⟩
    · exact ⟨inv, trivial, fun _ _ => rfl⟩
    · refine ⟨fun found => ?_, trivial, fun other different => (untouched_deliver different).own⟩
      refine (inv found).trans (congrArg List.length ?_)
      by_cases same : found = run
      · subst same
        exact (congrArg counted_ids own_deliver).symm
      · exact (congrArg counted_ids (untouched_deliver same).own).symm
  operations := by
    rintro run metered choice ⟨world, metrics⟩ state answer inv permits ran _
    rcases Option.map_eq_some_iff.mp ran with ⟨⟨after, found⟩, executes, same⟩
    cases same
    have executed := World.exec_executed executes
    refine ⟨fun other => ?_, trivial, fun other different => (executed.untouched different).own⟩
    by_cases same : other = run
    · subst same
      have counted := congrArg List.length (counted_executed executed)
      rw [List.length_append] at counted
      cases found with
      | ok value =>
          refine (congrArg Metrics.dead (if_pos rfl)).trans ?_
          refine (permits.counts value (metrics other)).trans ?_
          rw [inv other, Nat.add_comm]
          exact counted.symm
      | error error =>
          refine (congrArg Metrics.dead (if_pos rfl)).trans ?_
          refine (inv other).trans ?_
          exact (counted.trans (Nat.zero_add _)).symm
    · refine (congrArg Metrics.dead (if_neg same)).trans ?_
      exact (inv other).trans (congrArg (fun own => (counted_ids own).length) (executed.untouched same).own).symm
  crashes := by
    rintro run ⟨world, metrics⟩ inv _
    refine ⟨fun other => ?_, trivial, fun other different => (World.crash_untouched different).own⟩
    refine (inv other).trans (congrArg List.length ?_)
    by_cases same : other = run
    · subst same
      exact (congrArg counted_ids (World.own_crash)).symm
    · exact (congrArg counted_ids (World.crash_untouched same).own).symm
  environment := by
    rintro event ⟨world, metrics⟩ state inv happened _
    rcases Option.map_eq_some_iff.mp happened with ⟨after, happens, rfl⟩
    have occurred := World.happen_occurred happens
    refine ⟨fun run => ?_, trivial, fun run => (occurred.untouched run).own⟩
    exact (inv run).trans (congrArg (fun own => (counted_ids own).length) (occurred.untouched run).own).symm

/-! ## What a worker knows of its events -/

/-- Nothing that was released waits to be counted. -/
def Unreleased (events : List Event) : Prop :=
  released events = []

/-- Nothing has been counted since the last transaction has ended either. -/
def Cleared (events : List Event) : Prop :=
  released events = [] ∧ open_ids events = []

/-- Rows have just been released, and nothing has been counted before. -/
def Releasing (rows : List OutboxMessageModel) (events : List Event) : Prop :=
  released events = rows.map OutboxMessageModel.id ∧ open_ids events = []

/-- What is known after an exception in a transaction. -/
def anything : List Event -> Prop := fun _ => True

/-- An assertion about the events of the run. -/
def tallied (run : RunId) (holds : List Event -> Prop) : (metrics_discipline deployment).Assertion run :=
  .own (fun state => holds (state.1.own run)) (fun _ _ frame known => by
    rw [frame]
    exact known)

/-- Operations that neither release rows to dead nor count a failed message. -/
structure Uncounting (op : Op) : Prop where
  releases : forall cutoff limit, op ≠ .update .outbox_messages (.release_to_dead cutoff limit)
  marks : forall message_id worker_id limit,
    op ≠ .update .outbox_messages (.mark_publish_failure message_id worker_id limit none)

theorem Uncounting.gain (uncounting : Uncounting op) {events : List Event} (unreleased : Unreleased events) :
    gain op events = [] := by
  unfold Properties.gain
  split
  · exact unreleased
  · exact absurd rfl (uncounting.marks _ _ _)
  · rfl

theorem Unreleased.executed {answer : Except Error op.Answer} (unreleased : Unreleased (world.own run))
    (not_dead : forall cutoff limit, op ≠ .update .outbox_messages (.release_to_dead cutoff limit))
    (executed : World.Executed run world op after answer) : Unreleased (after.own run) := by
  rcases executed.own with same | ⟨event, records, own⟩
  · exact same ▸ unreleased
  · rw [own]
    cases records with
    | updated name statement rows =>
        cases statement with
        | release_to_dead cutoff limit => exact absurd rfl (not_dead cutoff limit)
        | _ => rfl
    | _ => rfl

theorem Cleared.executed {answer : Except Error op.Answer} (cleared : Cleared (world.own run))
    (uncounting : Uncounting op) (executed : World.Executed run world op after answer) : Cleared (after.own run) := by
  refine ⟨Unreleased.executed cleared.1 uncounting.releases executed, ?_⟩
  rcases executed.own with same | ⟨event, records, own⟩
  · exact same ▸ cleared.2
  · have gains := uncounting.gain cleared.1
    rw [own]
    cases records with
    | updated name statement rows =>
        refine (congrArg (· ++ open_ids (world.own run)) gains).trans ?_
        exact cleared.2
    | committed => rfl
    | rolled_back => rfl
    | _ => exact cleared.2

/-! ## Rules for the metered programs -/

section

variable {X : Type} {pre : List Event -> Prop}

theorem counted_triple {count : op.Answer -> Metrics -> Metrics} {post : op.Answer -> List Event -> Prop}
    {error : Error -> List Event -> Prop} (permitted : forall events, pre events -> Counts ⟨op, count⟩ events)
    (returns : forall world choice after value, pre (world.own run) ->
      World.exec run op choice world = some (after, .ok value) -> post value (after.own run))
    (raises : forall world choice after raised, pre (world.own run) ->
      World.exec run op choice world = some (after, .error raised) -> error raised (after.own run)) :
    (metrics_discipline deployment).Triple (tallied run pre) (counted op count) (fun value => tallied run (post value))
      (fun raised => tallied run (error raised)) := by
  refine Discipline.Triple.perform (fun state _ known => permitted _ known) ?_ ?_
  · rintro ⟨world, metrics⟩ choice state value _ known ran _ _
    rcases Option.map_eq_some_iff.mp ran with ⟨⟨after, found⟩, executes, same⟩
    cases same
    exact returns world choice after value known executes
  · rintro ⟨world, metrics⟩ choice state raised _ known ran _ _
    rcases Option.map_eq_some_iff.mp ran with ⟨⟨after, found⟩, executes, same⟩
    cases same
    exact raises world choice after raised known executes

theorem uncounted_triple {post : op.Answer -> List Event -> Prop} {error : Error -> List Event -> Prop}
    (permitted : forall events, pre events -> gain op events = [] ∧ Tallies op events)
    (returns : forall world choice after value, pre (world.own run) ->
      World.exec run op choice world = some (after, .ok value) -> post value (after.own run))
    (raises : forall world choice after raised, pre (world.own run) ->
      World.exec run op choice world = some (after, .error raised) -> error raised (after.own run)) :
    (metrics_discipline deployment).Triple (tallied run pre) (uncounted (await op))
      (fun value => tallied run (post value)) (fun raised => tallied run (error raised)) := by
  have performed : uncounted (await op) = counted op (fun _ metrics => metrics) :=
    @metered_perform signature Metrics op
  rw [performed]
  refine counted_triple (fun events known => ⟨fun value meter => ?_, (permitted events known).2⟩) returns raises
  rw [(permitted events known).1]
  rfl

/-- What does not count leaves a cleared worker cleared. -/
theorem cleared_triple {program : Program X} (calls : program.OnlyCalls Uncounting) :
    (metrics_discipline deployment).Triple (tallied run Cleared) (uncounted program) (fun _ => tallied run Cleared)
      (fun _ => tallied run Cleared) := by
  refine Discipline.Triple.of_onlyCalls (tallied run Cleared) ?_ ?_ (fun _ _ _ known => known)
    (fun _ _ _ known => known) (OnlyCalls.metered calls)
  · rintro ⟨op, count⟩ ⟨uncounting, same⟩ ⟨world, metrics⟩ _ known
    refine ⟨fun value meter => ?_, fun releases => absurd known.1 releases, fun opened => absurd known.2 opened⟩
    rw [uncounting.gain known.1]
    exact congrArg Metrics.dead (congrFun (congrFun same value) meter)
  · rintro ⟨op, count⟩ ⟨uncounting, _⟩ ⟨world, metrics⟩ choice state answer _ known ran _
    rcases Option.map_eq_some_iff.mp ran with ⟨⟨after, found⟩, executes, same⟩
    cases same
    exact Cleared.executed known uncounting (World.exec_executed executes)

/-- In a transaction that has counted something, a worker goes on with
operations that neither close the session nor purge. -/
theorem unreleased_triple {program : Program X} (calls : program.OnlyCalls (fun op : Op =>
      Uncounting op ∧ op ≠ .close ∧ forall cutoff, op ≠ .delete_finished cutoff)) :
    (metrics_discipline deployment).Triple (tallied run Unreleased) (uncounted program)
      (fun _ => tallied run Unreleased) (fun _ => tallied run Unreleased) := by
  refine Discipline.Triple.of_onlyCalls (tallied run Unreleased) ?_ ?_ (fun _ _ _ known => known)
    (fun _ _ _ known => known) (OnlyCalls.metered calls)
  · rintro ⟨op, count⟩ ⟨⟨uncounting, ends⟩, same⟩ ⟨world, metrics⟩ _ known
    refine ⟨fun value meter => ?_, fun releases => absurd known releases, fun _ => ends⟩
    rw [uncounting.gain known]
    exact congrArg Metrics.dead (congrFun (congrFun same value) meter)
  · rintro ⟨op, count⟩ ⟨⟨uncounting, _⟩, _⟩ ⟨world, metrics⟩ choice state answer _ known ran _
    rcases Option.map_eq_some_iff.mp ran with ⟨⟨after, found⟩, executes, same⟩
    cases same
    exact Unreleased.executed known uncounting.releases (World.exec_executed executes)

/-- A unit of work that is cleared where its body returns is cleared at its end. -/
theorem metered_scope_triple {before : (metrics_discipline deployment).Assertion run} {body : MeteredProgram X}
    (first : (metrics_discipline deployment).Triple before body (fun _ => tallied run Cleared)
      (fun _ => tallied run anything)) :
    (metrics_discipline deployment).Triple before (MeteredOutboxWorker.scope body) (fun _ => tallied run Cleared)
      (fun _ => tallied run Cleared) := by
  have close : (metrics_discipline deployment).Triple (tallied run Cleared) (uncounted (await .close))
      (fun _ => tallied run Cleared) (fun _ => tallied run Cleared) :=
    cleared_triple (OnlyCalls.perform ⟨fun _ _ => nofun, fun _ _ _ => nofun⟩)
  have rolled : forall {world after : World} {choice : Choice} {answer : Except Error Unit},
      World.exec run .rollback choice world = some (after, answer) -> Cleared (after.own run) := by
    intro world after choice answer ran
    rw [World.exec_rollback_eq ran, World.own_rollback]
    exact ⟨rfl, rfl⟩
  refine Discipline.Triple.tryFinally (Discipline.Triple.tryCatch first (fun raised => ?_))
    (fun _ => close) (fun _ => close)
  refine Discipline.Triple.bind (uncounted_triple
    (fun events _ => ⟨rfl, fun _ => .inl rfl, fun _ => ⟨nofun, fun _ => nofun⟩⟩) (fun _ _ _ _ _ ran => rolled ran)
    (fun _ _ _ _ _ ran => rolled ran)) (fun _ => ?_)
  exact Discipline.Triple.raise (fun _ _ known => known)

end

/-! ## The worker keeps to the discipline -/

theorem metered_release_triple (now : Datetime) (timeout max_attempts : Int) :
    (metrics_discipline deployment).Triple (tallied run Cleared)
      (MeteredOutboxWorker.release_expired_claims now timeout max_attempts)
      (fun _ => tallied run Unreleased) (fun _ => tallied run anything) := by
  have release : (metrics_discipline deployment).Triple (tallied run Cleared)
      (uncounted (await (.update .outbox_messages (.release_to_dead (now - timeout) max_attempts))))
      (fun dead => tallied run (Releasing dead)) (fun _ => tallied run anything) := by
    refine uncounted_triple (fun events known => ⟨rfl, fun releases => absurd known.1 releases,
      fun opened => absurd known.2 opened⟩) ?_ (fun _ _ _ _ _ _ => trivial)
    intro world choice after rows known ran
    rw [(outbox_update_recorded (World.exec_executed ran)).2]
    exact ⟨rfl, known.2⟩
  refine Discipline.Triple.bind release (fun dead => ?_)
  have count : (metrics_discipline deployment).Triple (tallied run (Releasing dead))
      (counted (.update .outbox_messages (.release_to_pending (now - timeout) max_attempts)) (fun _ metrics =>
        { metrics with outbox_claims_released_total := metrics.outbox_claims_released_total + dead.length }))
      (fun _ => tallied run Unreleased) (fun _ => tallied run anything) := by
    refine counted_triple (fun events known => ⟨fun value meter => ?_, fun _ => .inr ⟨_, _, rfl⟩,
      fun opened => absurd known.2 opened⟩) ?_ (fun _ _ _ _ _ _ => trivial)
    · have gains : gain (.update .outbox_messages (.release_to_pending (now - timeout) max_attempts)) events =
          dead.map OutboxMessageModel.id := known.1
      rw [gains, List.length_map]
      exact (Nat.add_assoc _ _ _).symm
    · intro world choice after rows _ ran
      rw [(outbox_update_recorded (World.exec_executed ran)).2]
      rfl
  exact Discipline.Triple.bind count (fun _ => Discipline.Triple.ret (fun _ _ known => known))

theorem metered_commit_triple :
    (metrics_discipline deployment).Triple (tallied run Unreleased) (uncounted (await .commit))
      (fun _ => tallied run Cleared) (fun _ => tallied run anything) := by
  refine uncounted_triple (fun events known => ⟨rfl, fun releases => absurd known releases,
    fun _ => ⟨nofun, fun _ => nofun⟩⟩) ?_ (fun _ _ _ _ _ _ => trivial)
  intro world choice after value known ran
  cases World.exec_executed ran with
  | committed answer known accepting =>
      rw [World.own_commit]
      exact ⟨rfl, rfl⟩

/-- A mark counts what its retry time says, whatever the mark has found. -/
theorem metered_failure_triple (settings : Settings) (worker_id : UUID) (now : Datetime) (message : OutboxMessage) :
    (metrics_discipline deployment).Triple (tallied run Unreleased)
      (MeteredOutboxWorker.mark_failure settings worker_id now message)
      (fun _ => tallied run Unreleased) (fun _ => tallied run Unreleased) := by
  have uniform : (OutboxWorker.next_retry_at settings message.attempts now).OnlyCalls (fun op : Op =>
      Uncounting op ∧ op ≠ .close ∧ forall cutoff, op ≠ .delete_finished cutoff) := by
    rw [OutboxWorker.next_retry_at]
    split
    · exact OnlyCalls.ret _
    · split
      · exact OnlyCalls.ret _
      · exact OnlyCalls.bind (OnlyCalls.perform ⟨⟨by simp, by simp⟩, by simp, by simp⟩)
          (fun _ => OnlyCalls.ret _)
  refine Discipline.Triple.bind (unreleased_triple uniform) (fun retry_at => ?_)
  have marks : (metrics_discipline deployment).Triple (tallied run Unreleased)
      (counted (.update .outbox_messages
        (.mark_publish_failure message.id worker_id settings.OUTBOX_MAX_ATTEMPTS retry_at)) (fun _ metrics =>
        if retry_at = none then { metrics with outbox_messages_total := metrics.outbox_messages_total + 1 }
        else metrics))
      (fun _ => tallied run Unreleased) (fun _ => tallied run Unreleased) := by
    have kept : forall {world after : World} {choice : Choice} {answer : Except Error (List OutboxMessageModel)},
        Unreleased (world.own run) -> World.exec run (.update .outbox_messages
          (.mark_publish_failure message.id worker_id settings.OUTBOX_MAX_ATTEMPTS retry_at)) choice world =
            some (after, answer) -> Unreleased (after.own run) :=
      fun known ran => Unreleased.executed known (fun cutoff limit same => by cases same) (World.exec_executed ran)
    refine counted_triple (fun events known => ⟨fun value meter => ?_, fun releases => absurd known releases,
      fun _ => ⟨by simp, by simp⟩⟩) (fun _ _ _ _ known ran => kept known ran)
      (fun _ _ _ _ known ran => kept known ran)
    cases retry_at with
    | none => exact Nat.add_right_comm _ _ _
    | some time => rfl
  exact Discipline.Triple.bind marks (fun _ => Discipline.Triple.ret (fun _ _ known => known))

theorem metered_claim_triple (settings : Settings) (worker_id : UUID) (now : Datetime) :
    (metrics_discipline deployment).Triple (tallied run Cleared) (MeteredOutboxWorker.claim settings worker_id now)
      (fun _ => tallied run Cleared) (fun _ => tallied run Cleared) := by
  refine metered_scope_triple (Discipline.Triple.bind (metered_release_triple now _ _) (fun _ => ?_))
  have claims : (SqlAlchemyOutboxRepository.claim_batch settings.OUTBOX_BATCH_SIZE now worker_id
      settings.OUTBOX_MAX_ATTEMPTS).OnlyCalls (fun op : Op =>
        Uncounting op ∧ op ≠ .close ∧ forall cutoff, op ≠ .delete_finished cutoff) :=
    OnlyCalls.bind (OnlyCalls.perform ⟨⟨by simp, by simp⟩, by simp, by simp⟩)
      (fun _ => OnlyCalls.ret _)
  refine Discipline.Triple.bind ((unreleased_triple claims).weaken (fun _ _ known => known) (fun _ _ _ known => known)
    (fun _ _ _ _ => trivial)) (fun messages => ?_)
  exact Discipline.Triple.bind metered_commit_triple (fun _ => Discipline.Triple.ret (fun _ _ known => known))

theorem metered_mark_triple (settings : Settings) (worker_id : UUID) (now : Datetime) (published : List UUID)
    (failed : List OutboxMessage) :
    (metrics_discipline deployment).Triple (tallied run Cleared)
      (MeteredOutboxWorker.mark settings worker_id now published failed)
      (fun _ => tallied run Cleared) (fun _ => tallied run Cleared) := by
  have marks : (forEach (fun message_id => SqlAlchemyOutboxRepository.mark_processed message_id worker_id)
      published).OnlyCalls (fun op : Op =>
        Uncounting op ∧ op ≠ .close ∧ forall cutoff, op ≠ .delete_finished cutoff) :=
    OnlyCalls.forEach (fun _ => OnlyCalls.bind
      (OnlyCalls.perform ⟨⟨by simp, by simp⟩, by simp, by simp⟩) (fun _ => OnlyCalls.ret _)) _
  refine metered_scope_triple (Discipline.Triple.bind ((unreleased_triple marks).weaken (fun _ _ known => known.1)
    (fun _ _ _ known => known) (fun _ _ _ _ => trivial)) (fun _ => ?_))
  refine Discipline.Triple.bind ?_ (fun _ => metered_commit_triple)
  exact (Discipline.Triple.forEach (fun _ => tallied run Unreleased)
    (fun message _ => metered_failure_triple settings worker_id now message) failed).weaken
    (fun _ _ known => known) (fun _ _ _ known => known) (fun _ _ _ _ => trivial)

theorem metered_publish_triple (settings : Settings) (worker_id : UUID) (now : Datetime) (messages : List OutboxMessage) :
    (metrics_discipline deployment).Triple (tallied run Cleared)
      (MeteredOutboxWorker.publish settings worker_id now messages)
      (fun _ => tallied run Cleared) (fun _ => tallied run Cleared) := by
  have quiet : forall op : Op, (forall statement, op ≠ .update .outbox_messages statement) ->
      (metrics_discipline deployment).Triple (tallied run Cleared) (uncounted (await op))
        (fun _ => tallied run Cleared) (fun _ => tallied run Cleared) :=
    fun op different => cleared_triple (OnlyCalls.perform ⟨fun _ _ => different _, fun _ _ _ => different _⟩)
  rw [MeteredOutboxWorker.publish]
  split
  · exact Discipline.Triple.raise (fun _ _ known => known)
  · refine Discipline.Triple.bind (quiet (.publish_all messages settings.OUTBOX_PUBLISH_CONCURRENCY) (by simp))
      (fun _ => ?_)
    refine Discipline.Triple.bind (quiet .published_all (by simp)) (fun results => ?_)
    dsimp only
    split
    · exact Discipline.Triple.ret (fun _ _ known => known)
    · exact metered_mark_triple settings worker_id now _ _

theorem metered_batch_triple (settings : Settings) (worker_id : UUID) :
    (metrics_discipline deployment).Triple (tallied run Cleared) (MeteredOutboxWorker.publish_batch settings worker_id)
      (fun _ => tallied run Cleared) (fun _ => tallied run Cleared) := by
  refine Discipline.Triple.bind (cleared_triple (OnlyCalls.perform ⟨fun _ _ => nofun, fun _ _ _ => nofun⟩)) (fun now => ?_)
  refine Discipline.Triple.bind (metered_claim_triple settings worker_id now) (fun messages => ?_)
  split
  · exact Discipline.Triple.ret (fun _ _ known => known)
  · exact metered_publish_triple settings worker_id now messages

theorem metered_logged_triple {program : MeteredProgram Unit}
    (triple : (metrics_discipline deployment).Triple (tallied run Cleared) program
      (fun _ => tallied run Cleared) (fun _ => tallied run Cleared)) :
    (metrics_discipline deployment).Triple (tallied run Cleared) (MeteredOutboxWorker.logged program)
      (fun _ => tallied run Cleared) (fun _ => tallied run Cleared) := by
  refine Discipline.Triple.tryCatch triple (fun error => ?_)
  cases error with
  | cancelled => exact Discipline.Triple.raise (fun _ _ known => known)
  | _ => exact Discipline.Triple.ret (fun _ _ known => known)

/-- The purge counts nothing, not even what its reaper finds. -/
theorem purge_uncounting (settings : Settings) :
    (OutboxWorker.logged (OutboxWorker.purge_processed settings)).OnlyCalls Uncounting := by
  have ends : forall op, ScopeCalls op -> Uncounting op := by
    intro op ends
    cases ends <;> exact ⟨fun _ _ => nofun, fun _ _ _ => nofun⟩
  have purge : (OutboxWorker.purge_processed settings).OnlyCalls Uncounting := by
    refine OnlyCalls.bind (OnlyCalls.perform ⟨fun _ _ => nofun, fun _ _ _ => nofun⟩) (fun now => ?_)
    refine scope_calls ends (OnlyCalls.bind (OnlyCalls.bind (OnlyCalls.perform ?_) (fun _ => OnlyCalls.ret _)) (fun _ =>
      OnlyCalls.bind (OnlyCalls.perform ?_) (fun _ => OnlyCalls.perform (ends _ .commit))))
    · exact ⟨fun _ _ => nofun, fun _ _ _ => nofun⟩
    · exact ⟨fun _ _ => nofun, fun _ _ _ => nofun⟩
  refine OnlyCalls.tryCatch purge (fun error => ?_)
  cases error with
  | cancelled => exact OnlyCalls.raise _
  | _ => exact OnlyCalls.ret _

theorem metered_run_triple (settings : Settings) (worker_id : UUID) (done cycles : Nat) :
    (metrics_discipline deployment).Triple (tallied run Cleared) (MeteredOutboxWorker.run settings worker_id done cycles)
      (fun _ => tallied run Cleared) (fun _ => tallied run Cleared) := by
  induction cycles generalizing done with
  | zero => exact Discipline.Triple.ret (fun _ _ known => known)
  | succ cycles inductionHypothesis =>
      rw [MeteredOutboxWorker.run]
      refine Discipline.Triple.bind (metered_logged_triple (metered_batch_triple settings worker_id)) (fun _ => ?_)
      split
      · exact Discipline.Triple.raise (fun _ _ known => known)
      · dsimp only
        split
        · exact Discipline.Triple.bind (cleared_triple (purge_uncounting settings)) (fun _ => inductionHypothesis (done + 1))
        · exact inductionHypothesis (done + 1)

def metrics_verified (deployment : Deployment) : (metrics_discipline deployment).Verified metered_initial where
  upheld := metrics_upheld deployment
  idle := fun run => tallied run (fun events => events = [])
  post := fun run _ _ => tallied run Cleared
  error := fun run _ _ => tallied run Cleared
  initial_idle := fun _ => rfl
  programs := by
    rintro run job ⟨world, metrics⟩ state inv idle started kept _
    rcases Option.map_eq_some_iff.mp started with ⟨begun, begins, rfl⟩
    have idle : world.own run = [] := idle
    have cleared : Cleared (begun.own run) := by
      rcases start_cases begins with rfl | ⟨settings, message, _, _, rfl⟩
      · rw [idle]
        exact ⟨rfl, rfl⟩
      · rw [own_deliver, idle]
        exact ⟨rfl, rfl⟩
    have quiet : forall {op : Op}, NoLease op -> Uncounting op :=
      fun neutral => ⟨fun _ _ => neutral.update _, fun _ _ _ => neutral.update _⟩
    cases job with
    | create command =>
        exact cleared_triple ((create_calls command).mono (fun _ calls => quiet (no_lease_create calls))) _ kept cleared
    | process command =>
        exact cleared_triple ((process_calls command).mono (fun _ calls => quiet (no_lease_process calls))) _ kept cleared
    | get query =>
        exact cleared_triple ((get_calls query).mono (fun _ calls => quiet (no_lease_get calls))) _ kept cleared
    | deliver batch_size concurrency =>
        exact cleared_triple ((deliver_calls _ _ _).mono (fun _ calls => quiet (no_lease_deliver calls))) _ kept cleared
    | consume settings message =>
        exact cleared_triple ((consume_calls settings message).mono (fun _ calls => quiet (no_lease_consume calls))) _ kept
          cleared
    | outbox settings cycles => exact metered_run_triple settings run 0 cycles _ kept cleared

/-! ## Whole runs -/

theorem dead_ids_executed {answer : Except Error op.Answer} (executed : World.Executed run world op after answer) :
    (after = world.commit run) ∨ forall other, dead_ids (after.own other) = dead_ids (world.own other) := by
  have others : forall other, other ≠ run -> dead_ids (after.own other) = dead_ids (world.own other) :=
    fun other different => congrArg dead_ids (executed.untouched different).own
  have both : dead_ids (after.own run) = dead_ids (world.own run) ->
      forall other, dead_ids (after.own other) = dead_ids (world.own other) := by
    intro mine other
    by_cases same : other = run
    · exact same ▸ mine
    · exact others other same
  rcases executed.own with same | ⟨event, records, own⟩
  · exact .inr (both (congrArg dead_ids same))
  · cases records with
    | committed =>
        rcases executed.commit_cases with rfl | same
        · exact .inr (fun _ => rfl)
        · exact .inl same
    | _ =>
        refine .inr (both ?_)
        rw [own]
        rfl

/-- Every worker of the run is balanced, and no row has died twice. -/
structure Accounts (world : World) : Prop where
  balanced : forall run, Balanced run world
  buried : Buried world

theorem Accounts.executed {answer : Except Error op.Answer} (accounts : Accounts world)
    (kept : LeasesKept deployment world) (permits : LeasePermits deployment run op world)
    (tallies : Tallies op (world.own run)) (accounted : Accounted world after)
    (executed : World.Executed run world op after answer) : Accounts after where
  balanced := by
    intro other
    by_cases same : other = run
    · exact same ▸ (accounts.balanced run).executed kept permits tallies accounted executed
    · exact (accounts.balanced other).frame (executed.untouched same)
  buried := by
    have evolves := RowsEvolve.executed kept.rows executed
    rcases dead_ids_executed executed with rfl | same
    · exact accounts.buried.committed (accounts.balanced run) evolves
    · exact accounts.buried.kept evolves same

theorem Accounts.crash (accounts : Accounts world) (accounted : Accounted world (world.crash run)) :
    Accounts (world.crash run) where
  balanced := by
    intro other
    by_cases same : other = run
    · exact same ▸ (accounts.balanced run).crash (same ▸ accounted)
    · exact (accounts.balanced other).frame (World.crash_untouched same)
  buried := by
    refine accounts.buried.kept RowsEvolve.crash (fun other => ?_)
    by_cases same : other = run
    · subst same
      rw [World.own_crash]
      rfl
    · exact congrArg dead_ids (World.crash_untouched same).own

theorem Accounts.occurred (accounts : Accounts world) (occurred : World.Occurred world after) : Accounts after where
  balanced := fun run => (accounts.balanced run).frame (occurred.untouched run)
  buried := accounts.buried.kept (RowsEvolve.of_tables occurred.tables)
    (fun run => congrArg dead_ids (occurred.untouched run).own)

/-- A consumer that is handed its message has counted nothing. -/
theorem Accounts.delivered (accounts : Accounts world) (idle : world.own run = []) (message : Message) :
    Accounts (deliver run message world) where
  balanced := by
    intro other
    by_cases same : other = run
    · subst same
      have unreleased : released (world.own other) = [] := congrArg released idle
      exact (accounts.balanced other).plain (accounts.balanced other).fresh own_deliver unreleased rfl rfl rfl rfl
        (fun key => Iff.rfl)
    · exact (accounts.balanced other).frame (untouched_deliver same)
  buried := by
    refine accounts.buried.kept (RowsEvolve.of_tables rfl) (fun other => ?_)
    by_cases same : other = run
    · subst same
      rw [own_deliver]
      rfl
    · exact congrArg dead_ids (untouched_deliver same).own

/-- The steps that keep the counters honest, in the metered service. -/
def Honest (before after : World × (RunId -> Metrics)) : Prop :=
  Accounted before.1 after.1

theorem accounts_along {state : (metered_service deployment).State}
    (reached : Machine.Reachable Honest metered_initial state) : Accounts state.shared.1 := by
  induction reached with
  | refl => exact ⟨balanced_initially, buried_initially⟩
  | @step state next action earlier taken honest inductionHypothesis =>
      have plain : Machine.Reachable (fun _ _ => True) World.initial (Machine.State.unmetered state) :=
        @Machine.Path.unmetered _ _ (service deployment) _ (metered_program deployment)
          (unmetered_program deployment) Honest (fun _ _ => True) (fun _ _ _ => trivial)
          (Machine.fresh metered_initial) state earlier
      have counting : (metrics_verified deployment).Holds state :=
        (metrics_verified deployment).sound (earlier.mono (fun _ _ _ => trivial))
      have kept : LeasesKept deployment state.shared.1 := (outbox_verified deployment).invariant plain
      rcases Machine.step_cases taken with
        ⟨run, job, shared, absent, started, rfl⟩ | ⟨run, job, metered, rest, choice, outcome, running, ran, rfl⟩ |
        ⟨run, job, metered, rest, running, rfl⟩ | ⟨event, shared, happened, rfl⟩
      · rcases Option.map_eq_some_iff.mp started with ⟨begun, begins, rfl⟩
        rcases start_cases begins with rfl | ⟨settings, message, _, _, rfl⟩
        · exact inductionHypothesis
        · exact inductionHypothesis.delivered (counting.absent run absent) message
      · rcases Option.map_eq_some_iff.mp ran with ⟨⟨after, answer⟩, executes, rfl⟩
        have permits : LeasePermits deployment run metered.op state.shared.1 :=
          (outbox_verified deployment).permitted plain (Machine.State.unmetered_call running)
        exact inductionHypothesis.executed kept permits (counting.permitted running).tallies honest
          (World.exec_executed executes)
      · exact inductionHypothesis.crash honest
      · rcases Option.map_eq_some_iff.mp happened with ⟨after, happens, rfl⟩
        exact inductionHypothesis.occurred (World.happen_occurred happens)

/-! ## The sum over the workers -/

/-- The events of one run in a trace. -/
def events_of (run : RunId) (trace : Trace) : List Event :=
  (trace.filter (fun entry => decide (entry.1 = .run run))).map Prod.snd

def dead_event : Event -> List UUID
  | .committed record => died record
  | _ => []

/-- The rows that committed transactions have moved to dead. -/
def moved_to_dead : Trace -> List UUID
  | [] => []
  | (.run _, event) :: older => dead_event event ++ moved_to_dead older
  | (.environment, _) :: older => moved_to_dead older

/-- The runs that have recorded something. -/
def actors (trace : Trace) : Finset RunId :=
  (trace.filterMap (fun entry =>
    match entry.1 with
    | .run run => some run
    | .environment => none)).toFinset

theorem mem_actors {trace : Trace} {run : RunId} {event : Event} (listed : (.run run, event) ∈ trace) :
    run ∈ actors trace :=
  List.mem_toFinset.mpr (List.mem_filterMap.mpr ⟨_, listed, rfl⟩)

theorem dead_ids_cons (event : Event) (older : List Event) :
    dead_ids (event :: older) = dead_event event ++ dead_ids older := by
  cases event <;> rfl

theorem events_of_run (run other : RunId) (event : Event) (trace : Trace) :
    events_of other ((.run run, event) :: trace) =
      if other = run then event :: events_of other trace else events_of other trace := by
  by_cases same : other = run
  · subst same
    simp [events_of]
  · have different : ¬ Actor.run run = .run other := fun equal => same (Actor.run.inj equal).symm
    simp [events_of, same, different]

theorem events_of_environment (other : RunId) (event : Event) (trace : Trace) :
    events_of other ((.environment, event) :: trace) = events_of other trace := by
  simp [events_of]

theorem mem_moved_to_dead {trace : Trace} {key : UUID} (listed : key ∈ moved_to_dead trace) :
    Exists fun run => key ∈ dead_ids (events_of run trace) := by
  induction trace with
  | nil => cases listed
  | cons entry older inductionHypothesis =>
      rcases entry with ⟨run | _, event⟩
      · rcases List.mem_append.mp listed with new | before
        · refine ⟨run, ?_⟩
          rw [events_of_run, if_pos rfl, dead_ids_cons]
          exact List.mem_append_left _ new
        · rcases inductionHypothesis before with ⟨other, found⟩
          refine ⟨other, ?_⟩
          rw [events_of_run]
          split
          · rw [dead_ids_cons]
            exact List.mem_append_right _ found
          · exact found
      · rcases inductionHypothesis listed with ⟨other, found⟩
        exact ⟨other, (events_of_environment other event older).symm ▸ found⟩

/-- Rows that no worker has moved twice and no two workers have moved. -/
theorem moved_to_dead_nodup {trace : Trace} (once : forall run, (dead_ids (events_of run trace)).Nodup)
    (apart : forall run other key, key ∈ dead_ids (events_of run trace) -> key ∈ dead_ids (events_of other trace) ->
      run = other) : (moved_to_dead trace).Nodup := by
  induction trace with
  | nil => exact List.nodup_nil
  | cons entry older inductionHypothesis =>
      rcases entry with ⟨run | _, event⟩
      · have mine : dead_ids (events_of run ((.run run, event) :: older)) =
            dead_event event ++ dead_ids (events_of run older) := by
          rw [events_of_run, if_pos rfl, dead_ids_cons]
        have grows : forall {other key}, key ∈ dead_ids (events_of other older) ->
            key ∈ dead_ids (events_of other ((.run run, event) :: older)) := by
          intro other key listed
          rw [events_of_run]
          split
          · rw [dead_ids_cons]
            exact List.mem_append_right _ listed
          · exact listed
        have earlier : (moved_to_dead older).Nodup := by
          refine inductionHypothesis (fun other => ?_)
            (fun first second key one two => apart first second key (grows one) (grows two))
          by_cases same : other = run
          · subst same
            exact List.Nodup.of_append_right (mine ▸ once other)
          · have kept := once other
            rwa [events_of_run, if_neg same] at kept
        refine (List.Nodup.of_append_left (mine ▸ once run)).append earlier (fun key new before => ?_)
        rcases mem_moved_to_dead before with ⟨other, found⟩
        have now : key ∈ dead_ids (events_of run ((.run run, event) :: older)) := by
          rw [mine]
          exact List.mem_append_left _ new
        have same : run = other := apart run other key now (grows found)
        subst same
        have split := once run
        rw [mine] at split
        exact (List.nodup_append.mp split).2.2 key new key found rfl
      · refine inductionHypothesis (fun run => ?_) (fun run other key => ?_)
        · exact events_of_environment run event older ▸ once run
        · have distinct := apart run other key
          rwa [events_of_environment, events_of_environment] at distinct

/-- The rows that all workers have moved, added up. -/
theorem length_moved_to_dead {workers : Finset RunId} (trace : Trace)
    (all : forall run event, (.run run, event) ∈ trace -> run ∈ workers) :
    (moved_to_dead trace).length = ∑ worker ∈ workers, (dead_ids (events_of worker trace)).length := by
  induction trace with
  | nil => exact (Finset.sum_const_zero).symm
  | cons entry older inductionHypothesis =>
      have before := inductionHypothesis (fun run event listed => all run event (List.mem_cons_of_mem entry listed))
      rcases entry with ⟨run | _, event⟩
      · have each : forall worker, (dead_ids (events_of worker ((.run run, event) :: older))).length =
            (if worker = run then (dead_event event).length else 0) + (dead_ids (events_of worker older)).length := by
          intro worker
          rw [events_of_run]
          by_cases same : worker = run
          · rw [if_pos same, if_pos same, dead_ids_cons, List.length_append]
          · rw [if_neg same, if_neg same, Nat.zero_add]
        calc (moved_to_dead ((.run run, event) :: older)).length
            = (dead_event event).length + (moved_to_dead older).length := List.length_append
          _ = (dead_event event).length + ∑ worker ∈ workers, (dead_ids (events_of worker older)).length := by
              rw [before]
          _ = ∑ worker ∈ workers, ((if worker = run then (dead_event event).length else 0) +
                (dead_ids (events_of worker older)).length) := by
              rw [Finset.sum_add_distrib, Finset.sum_ite_eq', if_pos (all run event List.mem_cons_self)]
          _ = ∑ worker ∈ workers, (dead_ids (events_of worker ((.run run, event) :: older))).length :=
              Finset.sum_congr rfl (fun worker _ => (each worker).symm)
      · calc (moved_to_dead ((.environment, event) :: older)).length
            = ∑ worker ∈ workers, (dead_ids (events_of worker older)).length := before
          _ = ∑ worker ∈ workers, (dead_ids (events_of worker ((.environment, event) :: older))).length :=
              Finset.sum_congr rfl (fun worker _ => by rw [events_of_environment])

/-- In every run whose steps keep the counters honest, a worker has counted
each message once and no other worker has, namely the rows that committed
transactions have moved to dead and those of its open transaction.  The sum
over the workers is exact whenever no transaction that has counted is open. -/
theorem dead_metrics_exact {state : (metered_service deployment).State}
    (reached : Machine.Reachable Honest metered_initial state) :
    (forall worker, (state.shared.2 worker).dead = (counted_ids (state.shared.1.own worker)).length ∧
      (counted_ids (state.shared.1.own worker)).Perm
        (open_ids (state.shared.1.own worker) ++ dead_ids (state.shared.1.own worker)) ∧
      (counted_ids (state.shared.1.own worker)).Nodup) ∧
    (forall worker other key, key ∈ counted_ids (state.shared.1.own worker) ->
      key ∈ counted_ids (state.shared.1.own other) -> worker = other) ∧
    (moved_to_dead state.shared.1.trace).Nodup ∧
    ((∑ worker ∈ actors state.shared.1.trace, (state.shared.2 worker).dead =
        (moved_to_dead state.shared.1.trace).length) <->
      forall worker, open_ids (state.shared.1.own worker) = []) := by
  have accounts := accounts_along reached
  have counting : (metrics_discipline deployment).inv state.shared :=
    (metrics_verified deployment).invariant (reached.mono (fun _ _ _ => trivial))
  refine ⟨fun worker => ⟨counting worker, (accounts.balanced worker).counted,
    (accounts.balanced worker).counted_nodup accounts.buried⟩, fun worker other key mine theirs => ?_, ?_, ?_⟩
  · exact (accounts.balanced worker).counted_apart (accounts.balanced other) accounts.buried mine theirs
  · exact moved_to_dead_nodup accounts.buried.once accounts.buried.apart
  · have total : ∑ worker ∈ actors state.shared.1.trace, (state.shared.2 worker).dead =
        ∑ worker ∈ actors state.shared.1.trace, (open_ids (state.shared.1.own worker)).length +
          (moved_to_dead state.shared.1.trace).length := by
      rw [length_moved_to_dead state.shared.1.trace (fun run event => mem_actors), ← Finset.sum_add_distrib]
      refine Finset.sum_congr rfl (fun worker _ => ?_)
      rw [counting worker, (accounts.balanced worker).counted.length_eq, List.length_append]
      rfl
    have silent : forall worker, worker ∉ actors state.shared.1.trace -> open_ids (state.shared.1.own worker) = [] := by
      intro worker absent
      have none : state.shared.1.own worker = [] := by
        rw [World.own, List.map_eq_nil_iff, List.filter_eq_nil_iff]
        rintro ⟨actor, event⟩ listed same
        have same : actor = .run worker := of_decide_eq_true same
        exact absent (mem_actors (same ▸ listed))
      rw [none]
      rfl
    rw [total]
    constructor
    · intro exact_sum worker
      have zero : ∑ worker ∈ actors state.shared.1.trace, (open_ids (state.shared.1.own worker)).length = 0 := by omega
      by_cases listed : worker ∈ actors state.shared.1.trace
      · exact List.length_eq_zero_iff.mp (Finset.sum_eq_zero_iff.mp zero worker listed)
      · exact silent worker listed
    · intro closed
      have zero : ∑ worker ∈ actors state.shared.1.trace, (open_ids (state.shared.1.own worker)).length = 0 :=
        Finset.sum_eq_zero (fun worker _ => by rw [closed worker]; rfl)
      rw [zero, Nat.zero_add]

/-! ## A message that is counted twice -/

/-- Events that cannot put the counters wrong. -/
def harmless : Event -> Bool
  | .rolled_back => false
  | .updated .outbox_messages (.mark_publish_failure _ _ _ none) _ => false
  | .updated .outbox_messages (.reap_exhausted _) rows => rows.isEmpty
  | _ => true

theorem honest_of_harmless {before after : World × (RunId -> Metrics)}
    (safe : (after.1.trace.head?.all (fun entry => harmless entry.2)) = true) : Honest before after where
  found := by
    intro run message_id worker_id limit rows trace
    rw [trace] at safe
    cases safe
  kept := by
    intro run trace
    rw [trace] at safe
    cases safe
  unreaped := by
    intro run limit rows trace
    rw [trace] at safe
    exact List.isEmpty_iff.mp safe

/-- A deployment whose outbox workers try each message once. -/
def one_attempt : Deployment where
  outbox_settings := fun settings => decide (settings.OUTBOX_MAX_ATTEMPTS = 1)
  retry_policy := .of_defaults

def trying_once : Settings := { OUTBOX_MAX_ATTEMPTS := 1 }

/-- Run 0 creates a payment with the outbox message 2, and worker 1 claims the
message and starts to publish it. -/
def publish_slowly : List (metered_service one_attempt).Action :=
  [.start 0 (.create ten_dollars), .perform 0 (.calm 0 0), .perform 0 (.calm 0 1), .perform 0 (.calm 0 0),
    .perform 0 (.calm 0 2), .perform 0 (.calm 0 0), .perform 0 (.calm 0 0), .perform 0 (.calm 0 0),
    .start 1 (.outbox trying_once 1), .perform 1 (.calm 10 0), .perform 1 (.calm 10 0), .perform 1 (.calm 10 0),
    .perform 1 (.calm 10 0), .perform 1 (.calm 10 0), .perform 1 (.calm 10 0), .perform 1 (.calm 10 0),
    .env (.start_publish 1 0)]

/-- After the lease has expired, worker 3 releases the message to dead. -/
def release_expired : List (metered_service one_attempt).Action :=
  [.start 3 (.outbox trying_once 1), .perform 3 (.calm 1000 0), .perform 3 (.calm 1000 0), .perform 3 (.calm 1000 0),
    .perform 3 (.calm 1000 0), .perform 3 (.calm 1000 0), .perform 3 (.calm 1000 0)]

/-- The publish of worker 1 fails, and its mark finds nothing. -/
def mark_late : List (metered_service one_attempt).Action :=
  [.env (.finish_publish 1 0 false), .perform 1 (.calm 1001 0), .perform 1 (.calm 1001 0), .perform 1 (.calm 1001 0),
    .perform 1 (.calm 1001 0)]

/-- What a schedule that passes a check has moved to dead, and what worker 3 has counted. -/
def moved_and_counted (state : (metered_service one_attempt).State) : List UUID × List UUID :=
  (moved_to_dead state.shared.1.trace, counted_ids (state.shared.1.own 3))

/-- The release is counted as what it has moved to dead. -/
theorem released_row_counted :
    Exists fun state : (metered_service one_attempt).State => Machine.Reachable Honest metered_initial state ∧
      moved_to_dead state.shared.1.trace = [2] ∧ counted_ids (state.shared.1.own 3) = [2] ∧
      (state.shared.2 3).dead = (counted_ids (state.shared.1.own 3)).length := by
  have ran : (Machine.runChecked (fun _ (after : World × (RunId -> Metrics)) =>
      after.1.trace.head?.all (fun entry => harmless entry.2)) (Machine.fresh metered_initial)
        (publish_slowly ++ release_expired)).map moved_and_counted = some ([2], [2]) := by
    decide +kernel
  rcases Option.map_eq_some_iff.mp ran with ⟨state, path, found⟩
  have reached : Machine.Reachable Honest metered_initial state :=
    Machine.Path.of_runChecked (fun _ _ safe => honest_of_harmless safe) _ path
  rcases Prod.mk.inj found with ⟨moved, counted⟩
  exact ⟨state, reached, moved, counted, ((dead_metrics_exact reached).1 3).1⟩

/-- No reaper has found a row. -/
def unreaped (trace : Trace) : Bool :=
  trace.all (fun entry =>
    match entry.2 with
    | .updated .outbox_messages (.reap_exhausted _) rows => rows.isEmpty
    | _ => true)

/-- Worker 1 counts the message again that worker 3 has moved and counted. -/
theorem dead_message_counted_twice :
    Exists fun state : (metered_service one_attempt).State =>
      Machine.Reachable (fun _ _ => True) metered_initial state ∧ unreaped state.shared.1.trace = true ∧
      (forall worker, worker ∈ actors state.shared.1.trace -> open_ids (state.shared.1.own worker) = []) ∧
      moved_to_dead state.shared.1.trace = [2] ∧
      ∑ worker ∈ actors state.shared.1.trace, (state.shared.2 worker).dead = 2 := by
  have ran : (Machine.runFrom (Machine.fresh metered_initial) (publish_slowly ++ release_expired ++ mark_late)).map
      (fun state : (metered_service one_attempt).State => decide (unreaped state.shared.1.trace = true ∧
        (forall worker, worker ∈ actors state.shared.1.trace -> open_ids (state.shared.1.own worker) = []) ∧
        moved_to_dead state.shared.1.trace = [2] ∧
        ∑ worker ∈ actors state.shared.1.trace, (state.shared.2 worker).dead = 2)) = some true := by
    decide +kernel
  rcases Option.map_eq_some_iff.mp ran with ⟨state, path, found⟩
  exact ⟨state, Machine.Path.of_runFrom _ path, of_decide_eq_true found⟩

end Properties
end Payments
