import Payments.Concurrency.Schedules
import Payments.Properties.AmountTexts
import Payments.Properties.PaymentCreations

namespace Payments
namespace Properties

open Concurrency Domain Infrastructure Application Prog UnitOfWork Payments.System

/-!
# The call a payment comes from

Only a creation inserts a payment, so the version that somebody holds of an
uncommitted payment is the one its call has asked for.  The commit that makes
it visible is the first one on record that mentions it, and no later version
says anything else about what was asked for.
-/

variable {deployment : Deployment} {world after : World} {run : RunId} {op : Op} {key : UUID}
  {row later : PaymentModel} {command : CreatePaymentCommand}

/-! ## What a call asks for -/

/-- The row is a version of what the call inserts. -/
def Requested (command : CreatePaymentCommand) (row : PaymentModel) : Prop :=
  Exists fun values => Exists fun id => Exists fun now => Exists fun first : PaymentModel =>
    CreatePaymentHandler.validated command = .ok values ∧
      PaymentModel.of_payment (CreatePaymentHandler.new_payment command values id now) = some first ∧
      first.storable = true ∧ origin row = origin first

theorem Requested.of_origin (requested : Requested command row) (same : origin later = origin row) :
    Requested command later := by
  rcases requested with ⟨values, id, now, first, valid, stored, storable, version⟩
  exact ⟨values, id, now, first, valid, stored, storable, same.trans version⟩

theorem create_handle_calls (command : CreatePaymentCommand) :
    (CreatePaymentHandler.handle command).OnlyCalls (fun op => CreationCalls command op ∨ ScopeCalls op) :=
  transactional_calls (fun _ => .inr) ((creation_calls command).mono (fun _ => .inl))

/-- Only a creation inserts a row, and it inserts what it has been asked for. -/
theorem requested_of_inserted {state : (service deployment).State} {job : Job}
    {next : Except Error Nat -> Program job.Result}
    (reached : Machine.Reachable (fun _ _ => True) World.initial state)
    (running : state.phase run = .running job (.call (.insert_on_conflict_do_nothing (some row)) next))
    (storable : row.storable = true) : Exists fun command => job = .create command ∧ Requested command row := by
  have calls : JobCalls job (.insert_on_conflict_do_nothing (some row)) :=
    (Machine.Path.only_calls reached (job_calls deployment run job) running).1
  cases job with
  | create command =>
      refine ⟨command, rfl, ?_⟩
      have inserts := (Machine.Path.only_calls reached (create_handle_calls command) running).1
      rcases inserts with creation | ends
      · generalize inserted : Op.insert_on_conflict_do_nothing (some row) = op at creation
        cases creation with
        | insert values id now valid =>
            have stored := Op.insert_on_conflict_do_nothing.inj inserted
            exact ⟨values, id, now, row, valid, stored.symm, storable, rfl⟩
        | _ => cases inserted
      · cases ends
  | process command =>
      cases calls with
      | scope ends => cases ends
  | get query =>
      cases calls with
      | scope ends => cases ends
  | deliver batch_size concurrency =>
      cases calls with
      | scope ends => cases ends
  | outbox settings cycles =>
      cases calls with
      | scope ends => cases ends
  | consume settings message =>
      cases calls with
      | process calls =>
          cases calls with
          | scope ends => cases ends

/-- What a run holds of an uncommitted payment is what its creation was asked for. -/
def DraftsRequested (state : (service deployment).State) : Prop :=
  forall key run draft, (state.shared.cell .payments key).committed = none ->
    (state.shared.cell .payments key).lock = some (run, some draft) ->
    Exists fun command => Exists fun rest => state.phase run = .running (.create command) rest ∧
      Requested command draft

/-- The operation of the run that holds the payment. -/
theorem DraftsRequested.own {state : (service deployment).State} (drafts : DraftsRequested state)
    (reached : Machine.Reachable (fun _ _ => True) World.initial state) {job : Job}
    {rest : Except Error op.Answer -> Program job.Result} (running : state.phase run = .running job (.call op rest))
    {answer : Except Error op.Answer} (executed : World.Executed run state.shared op after answer) {draft : PaymentModel}
    (vacant : (after.cell .payments key).committed = none)
    (locked : (after.cell .payments key).lock = some (run, some draft)) :
    Exists fun command => job = .create command ∧ Requested command draft := by
  have permits : PaymentPermits run op state.shared := (payment_verified deployment).permitted reached running
  have held : forall held, (state.shared.cell .payments key).committed = none ->
      (state.shared.cell .payments key).lock = some (run, some held) -> Exists fun command => job = .create command ∧
        Requested command held := by
    intro held missing before
    rcases drafts key run held missing before with ⟨command, rest', running', requested⟩
    cases running.symm.trans running'
    exact ⟨command, rfl, requested⟩
  cases executed.cell .payments key with
  | kept same =>
      rw [same] at vacant locked
      exact held draft vacant locked
  | locked query limit row operation => exact absurd operation (permits.unlocked _ _)
  | updated statement time old operation seen selected free same =>
      rw [same] at vacant locked
      have missing : (state.shared.cell .payments key).committed = none := vacant
      cases locked
      by_cases mine : (state.shared.cell .payments key).HeldBy run
      · rcases mine with ⟨version, before⟩
        rw [Cell.visible_of_lock before] at seen
        rcases held old missing (seen ▸ before) with ⟨command, created, requested⟩
        exact ⟨command, created, requested.of_origin (origin_values statement time)⟩
      · rw [Cell.visible_of_not_heldBy mine, missing] at seen
        cases seen
  | claimed query limit statement time old operation => exact absurd operation (permits.unclaimed _ _ _)
  | deleted cutoff old operation table => cases table
  | added old operation => exact absurd operation (permits.unadded old)
  | inserted new operation table own empty same =>
      subst operation
      rw [same] at locked
      cases locked
      cases executed with
      | raised =>
          rw [empty] at same
          have lock := congrArg Cell.lock same
          cases lock
      | conflicting =>
          rw [empty] at same
          have lock := congrArg Cell.lock same
          cases lock
      | inserted _ storable => exact requested_of_inserted reached running storable
  | committed operation same => exact absurd ⟨_, same ▸ locked⟩ Cell.not_heldBy_commit
  | released operation same => exact absurd ⟨_, same ▸ locked⟩ Cell.not_heldBy_rollback

theorem drafts_requested {state : (service deployment).State}
    (reached : Machine.Reachable (fun _ _ => True) World.initial state) : DraftsRequested state := by
  induction reached with
  | refl =>
      intro key run draft _ locked
      cases locked
  | @step state next action earlier taken _ inductionHypothesis =>
      rcases Machine.step_cases taken with
        ⟨run, job, shared, absent, started, rfl⟩ | ⟨run, job, op, rest, choice, outcome, running, ran, rfl⟩ |
        ⟨run, job, op, rest, running, rfl⟩ | ⟨event, shared, happened, rfl⟩
      · intro key holder draft vacant locked
        have same : shared.cell .payments key = state.shared.cell .payments key := by
          rcases start_cases started with rfl | ⟨_, _, _, _, rfl⟩ <;> rfl
        rw [same] at vacant locked
        rcases inductionHypothesis key holder draft vacant locked with ⟨command, rest, running, requested⟩
        have different : holder ≠ run := by
          rintro rfl
          cases absent.symm.trans running
        exact ⟨command, rest, (Machine.State.setPhase_of_ne state _ different).trans running, requested⟩
      · intro key holder draft vacant locked
        have executed := service_executed ran
        by_cases mine : holder = run
        · subst mine
          rcases inductionHypothesis.own earlier running executed vacant locked with ⟨command, rfl, requested⟩
          exact ⟨command, _, Machine.State.setPhase_self state holder _, requested⟩
        · have same := lock_untouched (executed.untouched mine) ⟨_, locked⟩
          rw [same] at vacant locked
          rcases inductionHypothesis key holder draft vacant locked with ⟨command, rest', running', requested⟩
          exact ⟨command, rest', (Machine.State.setPhase_of_ne state _ mine).trans running', requested⟩
      · intro key holder draft vacant locked
        have vacant : ((World.crash run state.shared).cell .payments key).committed = none := vacant
        have locked : ((World.crash run state.shared).cell .payments key).lock = some (holder, some draft) := locked
        have mine : holder ≠ run := by
          rintro rfl
          rw [World.crash_cell] at locked
          exact Cell.not_heldBy_rollback ⟨_, locked⟩
        have same := lock_untouched (World.crash_untouched mine) ⟨_, locked⟩
        rw [same] at vacant locked
        rcases inductionHypothesis key holder draft vacant locked with ⟨command, rest', running', requested⟩
        exact ⟨command, rest', (Machine.State.setPhase_of_ne state _ mine).trans running', requested⟩
      · intro key holder draft vacant locked
        have same : shared.cell .payments key = state.shared.cell .payments key :=
          (World.happen_occurred happened).cell .payments key
        rw [same] at vacant locked
        exact inductionHypothesis key holder draft vacant locked

/-! ## The call that has created a payment -/

/-- The run has committed the first version of the payment. -/
def InstalledFirst (run : RunId) (key : UUID) (trace : List Entry) : Prop :=
  Exists fun recent => Exists fun record : Record => Exists fun earlier => Exists fun first =>
    trace = recent ++ (.run run, .committed record) :: earlier ∧ (key, some first) ∈ record .payments ∧
      Unmentioned key earlier

theorem InstalledFirst.mono {trace grown : List Entry} (installed : InstalledFirst run key trace)
    (suffix : trace <:+ grown) : InstalledFirst run key grown := by
  rcases installed with ⟨recent, record, earlier, first, rfl, listed, unmentioned⟩
  rcases suffix with ⟨newer, rfl⟩
  exact ⟨newer ++ recent, record, earlier, first, (List.append_assoc _ _ _).symm, listed, unmentioned⟩

/-- The first version has been committed once. -/
theorem InstalledFirst.unique {trace : List Entry} {other : RunId} (installed : InstalledFirst run key trace)
    (installed' : InstalledFirst other key trace) : other = run := by
  rcases installed with ⟨recent, record, earlier, first, split, listed, unmentioned⟩
  rcases installed' with ⟨recent', record', earlier', first', split', listed', unmentioned'⟩
  rcases List.append_eq_append_iff.mp (split.symm.trans split') with ⟨between, _, same⟩ | ⟨between, _, same⟩
  · cases between with
    | nil =>
        cases same
        rfl
    | cons head tail =>
        have before : (.run other, .committed record') ∈ earlier := by
          rw [(List.cons.inj same).2]
          exact List.mem_append_right tail List.mem_cons_self
        exact absurd listed' (unmentioned other record' first' before)
  · cases between with
    | nil =>
        cases same
        rfl
    | cons head tail =>
        have before : (.run run, .committed record) ∈ earlier' := by
          rw [(List.cons.inj same).2]
          exact List.mem_append_right tail List.mem_cons_self
        exact absurd listed (unmentioned' run record first before)

/-- The payment was created by this call of the schedule. -/
structure CreatedBy (actions : List (service deployment).Action) (trace : List Entry) (key : UUID) (run : RunId)
    (command : CreatePaymentCommand) : Prop where
  called : .start run (.create command) ∈ actions
  installed : InstalledFirst run key trace

theorem CreatedBy.unique {actions : List (service deployment).Action} {state : (service deployment).State}
    (executed : Machine.runFrom (Machine.fresh World.initial) actions = some state) {other : RunId}
    {command' : CreatePaymentCommand} (created : CreatedBy actions state.shared.trace key run command)
    (created' : CreatedBy actions state.shared.trace key other command') : other = run ∧ command' = command := by
  have same := created.installed.unique created'.installed
  subst same
  have jobs : Job.create command' = .create command := Machine.started_once executed created'.called created.called
  cases jobs
  exact ⟨rfl, rfl⟩

/-- What makes a payment visible is the commit of the run that holds it. -/
theorem installed_of_vacant {state next : (service deployment).State} {action : (service deployment).Action}
    (reached : Machine.Reachable (fun _ _ => True) World.initial state) (taken : Machine.step state action = some next)
    (vacant : (state.shared.cell .payments key).committed = none)
    (found : (next.shared.cell .payments key).committed = some row) : Exists fun run => Exists fun command =>
      Exists fun rest => state.phase run = .running (.create command) rest ∧ Requested command row ∧
        InstalledFirst run key next.shared.trace := by
  have kept := (payment_verified deployment).invariant reached
  have unmoved : next.shared.cell .payments key = state.shared.cell .payments key -> False := by
    intro same
    rw [same, vacant] at found
    cases found
  rcases Machine.step_cases taken with
    ⟨run, job, shared, absent, started, rfl⟩ | ⟨run, job, op, rest, choice, outcome, running, ran, rfl⟩ |
    ⟨run, job, op, rest, running, rfl⟩ | ⟨event, shared, happened, rfl⟩
  · refine (unmoved ?_).elim
    rcases start_cases started with rfl | ⟨_, _, _, _, rfl⟩ <;> rfl
  · have executed := service_executed ran
    by_cases commit : op = .commit
    · subst commit
      rcases executed.commit_cases with same | same
      · exact (unmoved (congrArg (World.cell .payments key) same)).elim
      · rw [same] at found ⊢
        rcases committed_commit found with before | locked
        · rw [vacant] at before
          cases before
        · rcases drafts_requested reached key run row vacant locked with ⟨command, rest', running', requested⟩
          exact ⟨run, command, rest', running', requested, [], _, _, row, rfl, World.mem_record.mpr locked,
            kept.unmentioned vacant List.suffix_rfl⟩
    · have same := (executed.cell .payments key).committed_same commit
      rw [same, vacant] at found
      cases found
  · have crashed : ((World.crash run state.shared).cell .payments key).committed = some row := found
    rw [World.crash_cell, Cell.rollback_committed, vacant] at crashed
    cases crashed
  · exact (unmoved ((World.happen_occurred happened).cell .payments key)).elim

/-- Every committed payment was created by a call of the schedule, and still says what this call has asked for. -/
theorem created_by {actions : List (service deployment).Action} {state : (service deployment).State}
    (executed : Machine.runFrom (Machine.fresh World.initial) actions = some state)
    (found : (state.shared.cell .payments key).committed = some row) : Exists fun run => Exists fun command =>
      CreatedBy actions state.shared.trace key run command ∧ Requested command row := by
  refine @Machine.runFrom_induction signature (service deployment) _ (fun actions state =>
    forall row, (state.shared.cell .payments key).committed = some row -> Exists fun run => Exists fun command =>
      CreatedBy actions state.shared.trace key run command ∧ Requested command row) (Machine.fresh World.initial)
    (fun row found => by cases found) ?_ actions state executed row found
  intro actions state action next before inductionHypothesis taken row found
  have reached := Machine.Path.of_runFrom actions before
  have evolves : PaymentsEvolve state.shared next.shared :=
    (payment_verified deployment).evolves reached (.step action .refl taken trivial)
  cases earlier : (state.shared.cell .payments key).committed with
  | none =>
      rcases installed_of_vacant reached taken earlier found with ⟨run, command, rest, running, requested, installed⟩
      have called := Machine.started_of_running before running
      exact ⟨run, command, ⟨List.mem_append_left _ called, installed⟩, requested⟩
  | some old =>
      rcases inductionHypothesis old earlier with ⟨run, command, created, requested⟩
      rcases evolves.grows key old earlier with ⟨later, found', grows⟩
      cases found.symm.trans found'
      exact ⟨run, command, ⟨List.mem_append_left _ created.called, created.installed.mono evolves.trace⟩,
        requested.of_origin grows.origin⟩

/-! ## What a payment says -/

/-- The row has the values of the command; the column may write the amount in another way. -/
structure Reflects (command : CreatePaymentCommand) (row : PaymentModel) : Prop where
  idempotency_key : row.idempotency_key = command.idempotency_key
  amount : row.amount.value = command.amount.value
  currency : row.currency = command.currency
  description : row.description = command.description
  metadata : row.metadata = command.metadata
  webhook_url : row.webhook_url = command.webhook_url
  correlation_id : row.correlation_id = command.correlation_id

theorem Reflects.of_origin (reflects : Reflects command row) (same : origin later = origin row) :
    Reflects command later := by
  rcases later with ⟨_, _, _, _, _, _, _, _, _, _, _, _⟩
  rcases row with ⟨_, _, _, _, _, _, _, _, _, _, _, _⟩
  cases same
  exact ⟨reflects.idempotency_key, reflects.amount, reflects.currency, reflects.description, reflects.metadata,
    reflects.webhook_url, reflects.correlation_id⟩

theorem validated_money {values : IdempotencyKey × Money}
    (valid : CreatePaymentHandler.validated command = .ok values) :
    values.2.amount = command.amount ∧ values.2.currency.value = command.currency := by
  unfold CreatePaymentHandler.validated at valid
  dsimp only at valid
  split at valid
  · cases valid
  · rcases bind_ok valid with ⟨key, _, valid⟩
    rcases bind_ok valid with ⟨money, built, valid⟩
    cases valid
    exact fields_of_money built

theorem Requested.reflects (requested : Requested command row) : Reflects command row := by
  rcases requested with ⟨values, id, now, first, valid, stored, storable, same⟩
  rcases validated_money valid with ⟨amount, currency⟩
  have key := validated_key valid
  have reflects : Reflects command first := by
    have positive := positive_of_storable storable
    rcases Option.map_eq_some_iff.mp stored with ⟨column, numeric, rfl⟩
    have number := (numeric_checked values.2.checked numeric positive).2
    exact ⟨key, number.trans (congrArg Decimal.value amount), currency, rfl, rfl, rfl, rfl⟩
  exact reflects.of_origin same

/-- A column of two decimals holds a number of cents. -/
theorem cents_of_numeric {amount stored : Decimal} (numeric : numeric_18_2 amount = some stored)
    (positive : stored.nonpositive = .ok false) :
    Exists fun cents => stored = .finite false cents (-2) ∧ cents < 10 ^ 18 := by
  rw [numeric_18_2] at numeric
  split at numeric
  · next negative cents exponent quantized =>
      split at numeric
      · next small =>
          cases numeric
          cases quantized_exponent quantized
          cases negative with
          | false => exact ⟨cents, rfl, small⟩
          | true => cases positive
      · cases numeric
  · cases numeric

/-- The amount of a payment is read back from its text. -/
theorem Requested.amount_shown (requested : Requested command row) :
    Decimal.of_text row.amount.str = .ok row.amount := by
  rcases requested with ⟨values, id, now, first, valid, stored, storable, same⟩
  have amounts : row.amount = first.amount := by
    have parts := congrArg PaymentModel.amount same
    exact parts
  have positive := positive_of_storable storable
  rcases Option.map_eq_some_iff.mp stored with ⟨column, numeric, rfl⟩
  rcases cents_of_numeric numeric positive with ⟨cents, rfl, small⟩
  rw [amounts]
  exact of_text_str small

end Properties
end Payments
