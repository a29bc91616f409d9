import Mathlib.Data.Fintype.EquivFin
import Payments.Concurrency.Progress
import Payments.Concurrency.Schedules
import Payments.Properties.LockLifetimes
import Payments.Properties.PaymentFinality

namespace Payments
namespace Properties

open Concurrency Domain Infrastructure Application Prog UnitOfWork Payments.System

/-!
# No deadlock among the handlers

Creations, processings, reads and consumers wait for each other at rows of
payments only, and a run that waits holds none.  Whatever has happened so far,
each of them can be brought to its end by letting such runs go on, without any
failure, any crash and any help from the workers.
-/

variable {deployment : Deployment} {world after : World} {run other : RunId} {op : Op} {key : UUID}

/-- The jobs that may hold rows of payments, and the reads of them. -/
def concerns_payments : Job -> Prop
  | .create _ => True
  | .process _ => True
  | .get _ => True
  | .consume _ _ => True
  | .deliver _ _ => False
  | .outbox _ _ => False

/-- The first run holds a version that the statement of the second one waits for. -/
inductive Obstructs (other run : RunId) (world : World) : Op -> Prop where
  | updating (id : UUID) (version : Nat) (status target : PaymentStatus) (time : Option Datetime)
      (different : other ≠ run) (held : (world.cell .payments id).HeldBy other) :
      Obstructs other run world (.update .payments (.payment_transition id version status target time))
  | inserting (row draft : PaymentModel) (key : UUID) (different : other ≠ run)
      (locked : (world.cell .payments key).lock = some (other, some draft))
      (same : draft.idempotency_key = row.idempotency_key) :
      Obstructs other run world (.insert_on_conflict_do_nothing (some row))

theorem Obstructs.held (obstructs : Obstructs other run world op) :
    Exists fun key => (world.cell .payments key).HeldBy other := by
  cases obstructs with
  | updating id version status target time different held => exact ⟨id, held⟩
  | inserting row draft key different locked same => exact ⟨key, _, locked⟩

theorem Obstructs.of_untouched (obstructs : Obstructs other run after op)
    (untouched : World.Untouched other world after) : Obstructs other run world op := by
  cases obstructs with
  | updating id version status target time different held =>
      exact .updating id version status target time different (lock_untouched untouched held ▸ held)
  | inserting row draft key different locked same =>
      exact .inserting row draft key different (lock_untouched untouched ⟨_, locked⟩ ▸ locked) same

/-! ## Statements that do not have to wait -/

theorem statement_proceeds {X : Type} {choice : Choice} (calm : choice.interruption = none)
    {execute : Option (World × Except Error X)} (executes : execute.isSome = true) :
    (World.statement run choice world execute).isSome = true := by
  simp only [World.statement, calm]
  split
  · rfl
  · exact executes

theorem limited_proceeds {X : Type} {limit : Int} {execute : Nat -> Option (World × Except Error X)}
    (executes : forall limit, (execute limit).isSome = true) : (World.limited limit world execute).isSome = true := by
  unfold World.limited
  split
  · rfl
  · exact executes _

/-- An update that meets no row of another run goes on. -/
theorem update_proceeds {name : TableName} {statement : Update name} {choice : Choice}
    (calm : choice.interruption = none)
    (free : forall key row, (world.cell name key).visible run = some row -> statement.condition row = true ->
      (world.cell name key).heldByOther run = false) :
    (World.exec run (.update name statement) choice world).isSome = true := by
  refine statement_proceeds calm ?_
  rw [Option.isSome_map, Table.update, if_neg]
  · rfl
  · intro blocked
    rcases List.any_eq_true.mp blocked with ⟨key, matched, held⟩
    rcases Table.mem_matching.mp matched with ⟨row, seen, selected⟩
    cases held.symm.trans (free key row seen selected)

/-- A run that waits for a row of another one does not see it as its own. -/
theorem heldByOther_cases {name : TableName} :
    (world.cell name key).heldByOther run = false ∨
      Exists fun other => other ≠ run ∧ (world.cell name key).HeldBy other := by
  cases locked : (world.cell name key).lock with
  | none => exact .inl (Cell.heldByOther_eq_false_iff.mpr (.inl locked))
  | some entry =>
      rcases entry with ⟨holder, draft⟩
      by_cases same : holder = run
      · exact .inl (Cell.heldByOther_eq_false_iff.mpr (.inr ⟨draft, same ▸ locked⟩))
      · exact .inr ⟨holder, same, draft, locked⟩

theorem transition_proceeds (keyed : World.Keyed world) {version : Nat} {status target : PaymentStatus}
    {time : Option Datetime} {choice : Choice} (calm : choice.interruption = none) :
    (World.exec run (.update .payments (.payment_transition key version status target time)) choice world).isSome = true ∨
      Exists fun other => Obstructs other run world
        (.update .payments (.payment_transition key version status target time)) := by
  rcases @heldByOther_cases world run key .payments with free | ⟨other, different, held⟩
  · refine .inl (update_proceeds calm (fun found row seen selected => ?_))
    have own : row.id = found := keyed .payments found row (Cell.carries_of_visible seen)
    have named : row.id = key := transition_named row selected
    exact (own.symm.trans named) ▸ free
  · exact .inr ⟨other, .updating key version status target time different held⟩

theorem insert_proceeds {row : PaymentModel} {choice : Choice} (calm : choice.interruption = none) :
    (World.exec run (.insert_on_conflict_do_nothing (some row)) choice world).isSome = true ∨
      Exists fun other => Obstructs other run world (.insert_on_conflict_do_nothing (some row)) := by
  cases contended : world.contended run row.idempotency_key with
  | false =>
      refine .inl (statement_proceeds calm ?_)
      simp only [contended, Bool.false_eq_true, if_false]
      repeat' split
      all_goals rfl
  | true =>
      rcases List.any_eq_true.mp contended with ⟨found, _, locked⟩
      split at locked
      · next holder draft held =>
          rw [Bool.and_eq_true, decide_eq_true_eq, decide_eq_true_eq] at locked
          exact .inr ⟨holder, .inserting row draft found locked.1 held locked.2⟩
      · cases locked

/-- A row that the run has locked itself is free for it. -/
theorem held_proceeds (keyed : World.Keyed world) {name : TableName} {statement : Update name} {choice : Choice}
    (calm : choice.interruption = none) (held : (world.cell name key).HeldBy run)
    (named : forall row, statement.condition row = true -> Row.id row = key) :
    (World.exec run (.update name statement) choice world).isSome = true := by
  refine update_proceeds calm (fun found row seen selected => ?_)
  have own : Row.id row = found := keyed name found row (Cell.carries_of_visible seen)
  have same : found = key := own.symm.trans (named row selected)
  exact Cell.heldByOther_eq_false_iff.mpr (.inr (same ▸ held))

/-! ## What the jobs ask for -/

/-- An undisturbed choice with an identifier nobody has. -/
theorem fresh_choice (issued : List UUID) :
    Exists fun choice : Choice => choice.interruption = none ∧ choice.id ∉ issued := by
  rcases Infinite.exists_notMem_finset issued.toFinset with ⟨id, fresh⟩
  exact ⟨.calm 0 id, rfl, fun listed => fresh (List.mem_toFinset.mpr listed)⟩

theorem uuid7_proceeds : Exists fun choice : Choice => choice.interruption = none ∧
    (World.exec run .uuid7 choice world).isSome = true := by
  rcases fresh_choice world.issued with ⟨choice, calm, fresh⟩
  refine ⟨choice, calm, ?_⟩
  simp only [World.exec, if_neg fresh, Option.isSome_some]

/-- Operations that never wait. -/
theorem calm_proceeds (apart : takes_locks op = false) (not_uuid7 : op ≠ .uuid7)
    (not_uniform : forall low high, op ≠ .uniform low high) (not_published : op ≠ .published_all)
    (not_sent : op ≠ .sent_all) : Exists fun choice : Choice => choice.interruption = none ∧
      (World.exec run op choice world).isSome = true := by
  refine ⟨.calm 0 0, rfl, ?_⟩
  cases op with
  | uuid7 => exact absurd rfl not_uuid7
  | uniform low high => exact absurd rfl (not_uniform low high)
  | published_all => exact absurd rfl not_published
  | sent_all => exact absurd rfl not_sent
  | select name query => exact @statement_proceeds world run _ (.calm 0 0) rfl _ rfl
  | select_for_update => cases apart
  | update => cases apart
  | update_claimable => cases apart
  | delete_finished => cases apart
  | add => cases apart
  | insert_on_conflict_do_nothing => cases apart
  | _ => rfl

/-- A request or a consumer goes on, or waits for a payment of another run. -/
theorem request_proceeds {job : Job} (keyed : World.Keyed world) (permits : LockPermits run op world)
    (concerns : concerns_payments job) (calls : JobCalls job op) :
    (Exists fun choice : Choice => choice.interruption = none ∧ (World.exec run op choice world).isSome = true) ∨
      Exists fun other => Obstructs other run world op := by
  have calm : forall {op : Op}, takes_locks op = false -> op ≠ .uuid7 -> (forall low high, op ≠ .uniform low high) ->
      op ≠ .published_all -> op ≠ .sent_all ->
      (Exists fun choice : Choice => choice.interruption = none ∧ (World.exec run op choice world).isSome = true) ∨
        Exists fun other => Obstructs other run world op :=
    fun apart not_uuid7 not_uniform not_published not_sent =>
      .inl (calm_proceeds apart not_uuid7 not_uniform not_published not_sent)
  have ending : forall {op : Op}, ScopeCalls op ->
      (Exists fun choice : Choice => choice.interruption = none ∧ (World.exec run op choice world).isSome = true) ∨
        Exists fun other => Obstructs other run world op := by
    intro op ends
    cases ends <;> exact calm rfl (by simp) (by simp) (by simp) (by simp)
  have processing : ProcessCalls op ->
      (Exists fun choice : Choice => choice.interruption = none ∧ (World.exec run op choice world).isSome = true) ∨
        Exists fun other => Obstructs other run world op := by
    intro calls
    cases calls with
    | uuid7 => exact .inl uuid7_proceeds
    | transition id version status target time =>
        exact (transition_proceeds keyed rfl).imp_left (fun executes => ⟨.calm 0 0, rfl, executes⟩)
    | progress attempt =>
        exact .inl ⟨.calm 0 0, rfl, held_proceeds keyed rfl (permits.attempting attempt rfl)
          (fun row selected => of_decide_eq_true selected)⟩
    | add_attempt row => exact .inl ⟨.calm 0 0, rfl, rfl⟩
    | add_delivery id payment_id event_type correlation_id created_at => exact .inl ⟨.calm 0 0, rfl, rfl⟩
    | scope ends => exact ending ends
    | _ => exact calm rfl (by simp) (by simp) (by simp) (by simp)
  cases job with
  | create command =>
      cases calls with
      | uuid7 => exact .inl uuid7_proceeds
      | insert row =>
          cases row with
          | none => exact .inl ⟨.calm 0 0, rfl, @statement_proceeds world run _ (.calm 0 0) rfl _ rfl⟩
          | some row => exact (insert_proceeds rfl).imp_left (fun executes => ⟨.calm 0 0, rfl, executes⟩)
      | event id event => exact .inl ⟨.calm 0 0, rfl, rfl⟩
      | scope ends => exact ending ends
      | _ => exact calm rfl (by simp) (by simp) (by simp) (by simp)
  | process command => exact processing calls
  | get query =>
      cases calls with
      | scope ends => exact ending ends
      | _ => exact calm rfl (by simp) (by simp) (by simp) (by simp)
  | consume settings message =>
      cases calls with
      | process calls => exact processing calls
      | _ => exact calm rfl (by simp) (by simp) (by simp) (by simp)
  | deliver batch_size concurrency => exact concerns.elim
  | outbox settings cycles => exact concerns.elim

theorem pending_calls {state : (service deployment).State} {job : Job} {next : Except Error op.Answer -> Program job.Result}
    (reached : Machine.Reachable (fun _ _ => True) World.initial state)
    (running : state.phase run = .running job (.call op next)) : JobCalls job op :=
  (reached.only_calls (job_calls deployment run job) running).1

/-! ## Who holds a payment -/

/-- Operations that may lock a payment. -/
def locks_payments : Op -> Bool
  | .select_for_update .payments _ _ => true
  | .update .payments _ => true
  | .update_claimable .payments _ _ _ => true
  | .add .payments _ => true
  | .insert_on_conflict_do_nothing _ => true
  | _ => false

theorem concerns_of_locks {job : Job} (calls : JobCalls job op) (locks : locks_payments op = true) :
    concerns_payments job := by
  cases job with
  | create command => trivial
  | process command => trivial
  | get query => trivial
  | consume settings message => trivial
  | deliver batch_size concurrency =>
      cases calls with
      | scope ends => cases ends <;> cases locks
      | _ => cases locks
  | outbox settings cycles =>
      cases calls with
      | scope ends => cases ends <;> cases locks
      | _ => cases locks

theorem held_before {answer : Except Error op.Answer} (executed : World.Executed run world op after answer)
    (held : (after.cell .payments key).HeldBy run) :
    (world.cell .payments key).HeldBy run ∨ locks_payments op = true := by
  cases executed.cell .payments key with
  | kept same => exact .inl (same ▸ held)
  | locked query limit row operation => exact .inr (operation ▸ rfl)
  | updated statement time row operation => exact .inr (operation ▸ rfl)
  | claimed query limit statement time row operation => exact .inr (operation ▸ rfl)
  | deleted cutoff row operation table => cases table
  | added row operation => exact .inr (operation ▸ rfl)
  | inserted row operation table => exact .inr (operation ▸ rfl)
  | committed operation same => exact absurd (same ▸ held) Cell.not_heldBy_commit
  | released operation same => exact absurd (same ▸ held) Cell.not_heldBy_rollback

theorem payment_holder {state : (service deployment).State}
    (reached : Machine.Reachable (fun _ _ => True) World.initial state)
    (held : (state.shared.cell .payments key).HeldBy run) :
    state.Engaged concerns_payments run := by
  induction reached with
  | refl =>
      rcases held with ⟨draft, locked⟩
      cases locked
  | @step state next action earlier taken _ inductionHypothesis =>
      rcases Machine.step_cases taken with
        ⟨other, job, shared, absent, started, rfl⟩ | ⟨other, job, op, rest, choice, outcome, running, ran, rfl⟩ |
        ⟨other, job, op, rest, running, rfl⟩ | ⟨event, shared, happened, rfl⟩
      · have held : (state.shared.cell .payments key).HeldBy run := by
          rcases start_cases started with rfl | ⟨settings, message, _, _, rfl⟩
          · exact held
          · exact held
        rcases inductionHypothesis held with ⟨job', rest, phase, concerns⟩
        have different : run ≠ other := by
          rintro rfl
          cases absent.symm.trans phase
        exact ⟨job', rest, (Machine.State.setPhase_of_ne state _ different).trans phase, concerns⟩
      · by_cases same : run = other
        · subst same
          refine ⟨job, rest outcome.2, Machine.State.setPhase_self state run _, ?_⟩
          rcases held_before (service_executed ran) held with before | locks
          · rcases inductionHypothesis before with ⟨job', rest', phase, concerns⟩
            cases running.symm.trans phase
            exact concerns
          · exact concerns_of_locks (pending_calls earlier running) locks
        · have untouched := (service_executed ran).untouched same
          rcases inductionHypothesis (lock_untouched untouched held ▸ held) with ⟨job', rest', phase, concerns⟩
          exact ⟨job', rest', (Machine.State.setPhase_of_ne state _ same).trans phase, concerns⟩
      · by_cases same : run = other
        · subst same
          exact absurd (World.crash_cell .payments key ▸ held) Cell.not_heldBy_rollback
        · have untouched := @World.crash_untouched other run state.shared same
          rcases inductionHypothesis (lock_untouched untouched held ▸ held) with ⟨job', rest', phase, concerns⟩
          exact ⟨job', rest', (Machine.State.setPhase_of_ne state _ same).trans phase, concerns⟩
      · have same := (World.happen_occurred happened).cell .payments key
        exact inductionHypothesis (same ▸ held)

/-! ## The order among the handlers -/

section

variable {state : (service deployment).State} {job : Job}
  {next : Except Error op.Answer -> Program job.Result}

theorem lock_permits (reached : Machine.Reachable (fun _ _ => True) World.initial state)
    (running : state.phase run = .running job (.call op next)) : LockPermits run op state.shared :=
  (lock_verified deployment).permitted reached running

theorem obstructed_clear (reached : Machine.Reachable (fun _ _ => True) World.initial state)
    (running : state.phase run = .running job (.call op next)) (obstructed : Obstructs other run state.shared op) :
    Clear run state.shared := by
  have permits := lock_permits reached running
  cases obstructed with
  | updating id version status target time different held =>
      rcases permits.moving id version status target time rfl with clear | mine
      · exact clear
      · exact absurd (held.unique mine) different
  | inserting row draft key different locked same => exact permits.inserting _ rfl

theorem obstructs_unique (reached : Machine.Reachable (fun _ _ => True) World.initial state) {first second : RunId}
    (one : Obstructs first run state.shared op) (two : Obstructs second run state.shared op) : first = second := by
  have kept := (payment_verified deployment).invariant reached
  cases one with
  | updating id version status target time different held =>
      cases two with
      | updating _ _ _ _ _ different' held' => exact held.unique held'
  | inserting row draft key different locked same =>
      cases two with
      | inserting _ draft' key' different' locked' same' =>
          have together := kept.unique key key' draft draft' (.draft locked) (.draft locked') (same.trans same'.symm)
          subst together
          exact Cell.HeldBy.unique ⟨_, locked⟩ ⟨_, locked'⟩

end

/-- Requests and consumers wait for each other in an order without cycles. -/
def requests_orderly (deployment : Deployment) : Machine.Orderly (service deployment) World.initial where
  kind := concerns_payments
  calm := fun choice => choice.interruption = none
  holds := fun run world => ¬ Clear run world
  obstructs := fun other run op world => Obstructs other run world op
  proceeds := by
    intro state run job op next reached running concerns
    exact request_proceeds ((lock_verified deployment).invariant reached) (lock_permits reached running) concerns
      (pending_calls reached running)
  holder := by
    intro state run job op next other reached _ _ obstructed
    rcases obstructed.held with ⟨key, held⟩
    exact ⟨fun clear => clear _ key held, payment_holder reached held⟩
  released := by
    rintro state run reached ⟨job, ⟨value, ended⟩ | ⟨raised, ended⟩⟩ holding
    · exact holding ((lock_verified deployment).returned reached ended)
    · exact holding ((lock_verified deployment).raised reached ended)
  patient := fun reached running _ holding obstructed => holding (obstructed_clear reached running obstructed)
  unique := fun reached _ _ one two => obstructs_unique reached one two
  settled := fun ran different obstructed => obstructed.of_untouched ((service_executed ran).untouched different)

/-- A statement that cannot go on, whatever may be chosen, short of a failure. -/
def Blocked (run : RunId) (op : Op) (world : World) : Prop :=
  takes_locks op = true ∧ forall choice : Choice, choice.interruption = none -> World.exec run op choice world = none

/-- No transaction leaks a lock, no handler waits while it holds one, and every
request and every consumer can be brought to its end from every reachable state
by steps of requests and consumers alone. -/
theorem handlers_finish {state : (service deployment).State}
    (reached : Machine.Reachable (fun _ _ => True) World.initial state) :
    (forall run name key, (state.shared.cell name key).HeldBy run ->
      Exists fun job => Exists fun op => Exists fun next => state.phase run = .running job (.call op next)) ∧
    (forall run job op next, state.phase run = .running job (.call op next) ->
      (forall settings cycles, job ≠ .outbox settings cycles) -> Blocked run op state.shared -> Clear run state.shared) ∧
    forall run job rest, state.phase run = .running job rest -> concerns_payments job ->
      Exists fun last => Machine.Driven (state.Engaged concerns_payments)
        (fun choice : Choice => choice.interruption = none) state last ∧ last.Ended run := by
  refine ⟨fun run name key held => holder_active reached held, fun run job op next running handler blocked => ?_,
    fun run job rest running concerns => (requests_orderly deployment).finishes reached running concerns⟩
  have keyed := (lock_verified deployment).invariant reached
  have permits := lock_permits reached running
  have calls := pending_calls reached running
  have settle : concerns_payments job -> Clear run state.shared := by
    intro concerns
    rcases request_proceeds keyed permits concerns calls with ⟨choice, calm, executes⟩ | ⟨other, obstructed⟩
    · rw [blocked.2 choice calm] at executes
      cases executes
    · exact obstructed_clear reached running obstructed
  cases job with
  | create command => exact settle trivial
  | process command => exact settle trivial
  | get query => exact settle trivial
  | consume settings message => exact settle trivial
  | outbox settings cycles => exact absurd rfl (handler settings cycles)
  | deliver batch_size concurrency =>
      rcases calls with _ | _ | _ | _ | _ | delivery | ends
      · cases blocked.1
      · next now limit =>
          have executes : (World.exec run (.select_for_update .webhook_deliveries (.due_deliveries now) limit)
              (.calm 0 0) state.shared).isSome = true :=
            @statement_proceeds state.shared run _ (.calm 0 0) rfl _ (limited_proceeds (fun _ => rfl))
          rw [blocked.2 (.calm 0 0) rfl] at executes
          cases executes
      · cases blocked.1
      · cases blocked.1
      · cases blocked.1
      · have executes : (World.exec run (.update .webhook_deliveries (.delivery_progress delivery)) (.calm 0 0)
            state.shared).isSome = true :=
          held_proceeds keyed rfl (permits.delivering delivery rfl) (fun row selected => of_decide_eq_true selected)
        rw [blocked.2 (.calm 0 0) rfl] at executes
        cases executes
      · cases ends <;> cases blocked.1

/-- A run is_processing a payment. -/
def is_processing (run : RunId) (state : (service sample_deployment).State) : Bool :=
  match state.phase run with
  | .running (.process _) _ => true
  | _ => false

theorem of_is_processing {state : (service sample_deployment).State} (known : is_processing run state = true) :
    Exists fun command => Exists fun rest => state.phase run = .running (.process command) rest := by
  unfold is_processing at known
  split at known
  · next command rest phase => exact ⟨command, rest, phase⟩
  · cases known

/-- Run 2 has looked at payment 1, which run 1 charges, and is about to claim it. -/
def waiting_claim : List (service sample_deployment).Action :=
  contending ++ [.perform 2 (.calm 20 0)]

/-- While run 1 charges the payment, run 2 has to wait for it, and it can be brought to its end. -/
theorem contending_run_finishes : Exists fun state : (service sample_deployment).State =>
    (state.shared.cell .payments 1).HeldBy 1 ∧
      state.pending 2 = some (.update .payments (.payment_transition 1 0 .PENDING .PROCESSING none)) ∧
      Exists fun last : (service sample_deployment).State => Machine.Driven (state.Engaged concerns_payments)
        (fun choice : Choice => choice.interruption = none) state last ∧ last.Ended 2 := by
  have waiting : (Machine.runFrom (Machine.fresh World.initial) waiting_claim).map
      (fun state => ((state.shared.cell .payments 1).lock.map Prod.fst, is_processing 2 state, state.pending 2)) =
        some (some 1, true, some (Op.update .payments (.payment_transition 1 0 .PENDING .PROCESSING none))) := by
    with_unfolding_all rfl
  rcases Option.map_eq_some_iff.mp waiting with ⟨state, ran, known⟩
  rcases Option.map_eq_some_iff.mp (congrArg Prod.fst known) with ⟨⟨holder, draft⟩, locked, same⟩
  have same : holder = 1 := same
  rcases of_is_processing (congrArg (fun entry => entry.2.1) known) with ⟨command, rest, running⟩
  exact ⟨state, ⟨draft, same ▸ locked⟩, congrArg (fun entry => entry.2.2) known,
    (handlers_finish (Machine.Path.of_runFrom _ ran)).2.2 2 _ rest running trivial⟩

end Properties
end Payments
