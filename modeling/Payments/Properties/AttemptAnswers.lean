import Payments.Properties.AttemptArguments
import Payments.Properties.RepeatedReads

namespace Payments
namespace Properties

open Concurrency Domain Infrastructure Application Prog UnitOfWork Payments.System

/-!
# What a payment shows of its charge

An attempt is committed with the end of its payment, by the run that has
charged the payment, and it says what the gateway has answered to this run.
Nobody changes it afterwards, so this is what every reader is shown.
-/

variable {deployment : Deployment} {world after : World} {run : RunId} {op : Op} {key : UUID}
  {row : PaymentModel} {attempt : PaymentAttemptModel} {result : GatewayResult} {trace later : List Entry}

/-! ## One answer for each run -/

/-- A run is answered by the gateway once. -/
def AnsweredOnce (entry : Entry) (earlier : List Entry) : Prop :=
  forall run key result, entry = (.run run, .charge_returned key result) ->
    forall other result', (.run run, .charge_returned other result') ∉ earlier

theorem single_answer {state : (service deployment).State}
    (reached : Machine.Reachable (fun _ _ => True) World.initial state) : Along AnsweredOnce state.shared.trace := by
  refine reachable_along ?_ ?_ ?_ ?_ reached
  · rintro run message earlier other key result same
    cases same
  · rintro run earlier other key result same
    cases same
  · rintro state event after reached' occurred recorded other key result same
    cases same
  · intro state run op event reached' pending records other key result same
    cases same
    cases records with
    | charge_returned =>
        rcases Machine.State.running_of_pending pending with ⟨job, next, running⟩
        have waiting := (((payment_verified deployment).permitted reached' running).awaiting _ rfl).2
        exact fun other result' listed => waiting.unanswered other result' (own_mem.mpr listed)

theorem same_answer {state : (service deployment).State} {other : UUID} {result' : GatewayResult}
    (reached : Machine.Reachable (fun _ _ => True) World.initial state)
    (one : (.run run, .charge_returned key result) ∈ state.shared.trace)
    (two : (.run run, .charge_returned other result') ∈ state.shared.trace) : result = result' := by
  by_contra different
  have apart : ((.run run, .charge_returned key result) : Entry) ≠ (.run run, .charge_returned other result') := by
    intro same
    cases same
    exact different rfl
  rcases (single_answer reached).of_two one two apart with ⟨earlier, once, listed⟩ | ⟨earlier, once, listed⟩
  · exact once run key result rfl other result' listed
  · exact once run other result' rfl key result listed

/-! ## The attempts that a run holds -/

/-- The attempt says what the gateway has answered to the run. -/
structure AttemptAnswered (run : RunId) (attempt : PaymentAttemptModel) (result : GatewayResult) (world : World) :
    Prop where
  returned : Exists fun key => .charge_returned key result ∈ world.own run
  reflects : ReflectsAnswer result attempt.status attempt.error attempt.gateway_response
  shown : .clock_read attempt.created_at ∈ world.own run

/-- A new attempt in a transaction has begun, or it says what the gateway has answered. -/
def TracksCharge (run : RunId) (world : World) : Prop :=
  forall id attempt, (world.cell .payment_attempts id).lock = some (run, some attempt) ->
    (world.cell .payment_attempts id).committed = none ->
      AttemptBegun run attempt world ∨ Exists fun result => AttemptAnswered run attempt result world

theorem TracksCharge.kept (tracks : TracksCharge run world)
    (own : forall event, event ∈ world.own run -> event ∈ after.own run)
    (cells : forall id attempt, (after.cell .payment_attempts id).lock = some (run, some attempt) ->
      (after.cell .payment_attempts id).committed = none ->
      (world.cell .payment_attempts id).lock = some (run, some attempt) ∧
        (world.cell .payment_attempts id).committed = none) : TracksCharge run after := by
  intro id attempt locked vacant
  rcases cells id attempt locked vacant with ⟨locked, vacant⟩
  rcases tracks id attempt locked vacant with begun | ⟨result, answered⟩
  · exact .inl ⟨begun.status, begun.gateway_response, own _ begun.shown⟩
  · rcases answered.returned with ⟨key, returned⟩
    exact .inr ⟨result, ⟨key, own _ returned⟩, answered.reflects, own _ answered.shown⟩

theorem TracksCharge.untouched (tracks : TracksCharge run world) (untouched : World.Untouched run world after) :
    TracksCharge run after := by
  refine tracks.kept (fun event listed => untouched.own.symm ▸ listed) (fun id attempt locked vacant => ?_)
  have before := (lock_iff untouched).mp locked
  have same : after.cell .payment_attempts id = world.cell .payment_attempts id :=
    untouched.tables .payment_attempts id (.inl ⟨_, before⟩)
  exact ⟨before, same ▸ vacant⟩

theorem TracksCharge.executed (tracks : TracksCharge run world) (arguments : AttemptArguments run op world)
    {answer : Except Error op.Answer} (executed : World.Executed run world op after answer) : TracksCharge run after := by
  intro id attempt locked vacant
  have own : forall event, event ∈ world.own run -> event ∈ after.own run := fun event => own_kept executed
  cases executed.cell .payment_attempts id with
  | kept same =>
      refine (tracks id attempt (same ▸ locked) (same ▸ vacant)).imp (fun begun => ?_) (fun ⟨result, answered⟩ => ?_)
      · exact ⟨begun.status, begun.gateway_response, own _ begun.shown⟩
      · exact ⟨result, answered.returned.imp (fun _ returned => own _ returned), answered.reflects, own _ answered.shown⟩
  | locked query limit row operation => exact absurd operation (arguments.unlocked query limit)
  | updated statement time row operation seen selected free same =>
      cases statement with
      | attempt_progress saved =>
          rcases arguments.reflects saved operation with ⟨key, result, returned, reflects⟩
          have uncommitted : (world.cell .payment_attempts id).committed = none := by
            rw [same] at vacant
            exact vacant
          have mine : (world.cell .payment_attempts id).lock = some (run, some row) := by
            by_cases held : (world.cell .payment_attempts id).HeldBy run
            · rcases held with ⟨draft, mine⟩
              cases (Cell.visible_of_lock mine).symm.trans seen
              exact mine
            · cases uncommitted.symm.trans ((Cell.visible_of_not_heldBy held).symm.trans seen)
          have shown : .clock_read row.created_at ∈ world.own run := by
            rcases tracks id row mine uncommitted with begun | ⟨_, answered⟩
            · exact begun.shown
            · exact answered.shown
          rw [same] at locked
          cases locked
          exact .inr ⟨result, ⟨key, own _ returned⟩, reflects, own _ shown⟩
  | claimed query limit statement time row operation => exact absurd operation (arguments.unclaimed _ _ _)
  | deleted cutoff row operation table => cases table
  | added row operation own' vacant' same =>
      have begun := arguments.begins row operation
      rw [same] at locked
      cases locked
      exact .inl ⟨begun.status, begun.gateway_response, own _ begun.shown⟩
  | inserted row operation table => cases table
  | committed operation same => exact absurd ⟨_, same ▸ locked⟩ Cell.not_heldBy_commit
  | released operation same => exact absurd ⟨_, same ▸ locked⟩ Cell.not_heldBy_rollback

/-! ## Committed attempts -/

/-- The payment was charged by one run, and the attempt says what the gateway
has answered to it. -/
structure ChargedAs (trace : List Entry) (row : PaymentModel) (attempt : PaymentAttemptModel) (run : RunId)
    (result : GatewayResult) : Prop where
  called : Exists fun amount => Exists fun text => (.run run, .charge_called row.id amount text) ∈ trace ∧
    Orders row amount text
  returned : (.run run, .charge_returned row.id result) ∈ trace
  verdict : row.status = verdict result
  reflects : ReflectsAnswer result attempt.status attempt.error attempt.gateway_response
  shown : (.run run, .clock_read attempt.created_at) ∈ trace

theorem ChargedAs.mono (charged : ChargedAs trace row attempt run result) (grown : trace <:+ later) :
    ChargedAs later row attempt run result := by
  rcases charged.called with ⟨amount, text, called, orders⟩
  exact ⟨⟨amount, text, grown.mem called, orders⟩, grown.mem charged.returned, charged.verdict, charged.reflects,
    grown.mem charged.shown⟩

/-- Every committed attempt belongs to an ended payment. -/
def AttemptsSettled (world : World) : Prop :=
  forall id attempt, (world.cell .payment_attempts id).committed = some attempt ->
    Exists fun row => (world.cell .payments attempt.payment_id).committed = some row ∧ Final row ∧
      Exists fun run => Exists fun result => ChargedAs world.trace row attempt run result

/-- A step that commits no attempt. -/
theorem AttemptsSettled.kept (settled : AttemptsSettled world) (evolves : PaymentsEvolve world after)
    (cells : forall id attempt, (after.cell .payment_attempts id).committed = some attempt ->
      (world.cell .payment_attempts id).committed = some attempt) : AttemptsSettled after := by
  intro id attempt committed
  rcases settled id attempt (cells id attempt committed) with ⟨row, found, final, run, result, charged⟩
  rcases evolves.grows attempt.payment_id row found with ⟨later, found', grows⟩
  cases grows.of_final final
  exact ⟨row, found', final, run, result, charged.mono evolves.trace⟩

theorem status_ne_verdict (status : PaymentAttemptStatus) (result : GatewayResult)
    (named : status.value = (verdict result).value) : status ≠ .PROCESSING := by
  rintro rfl
  cases success : result.success <;> simp [verdict, success, PaymentStatus.value, PaymentAttemptStatus.value] at named

/-- The commit of the run that has charged a payment. -/
theorem AttemptsSettled.commit {state : (service deployment).State} (settled : AttemptsSettled state.shared)
    (reached : Machine.Reachable (fun _ _ => True) World.initial state) (tracks : TracksCharge run state.shared)
    (evolves : PaymentsEvolve state.shared (state.shared.commit run)) (installs : Installs run state.shared) :
    AttemptsSettled (state.shared.commit run) := by
  have kept := (payment_verified deployment).invariant reached
  cases installs with
  | plain attempts payments deliveries =>
      refine settled.kept evolves (fun id attempt committed => ?_)
      rw [World.cell_commit, Cell.commit_of_not_heldBy (attempts id)] at committed
      exact committed
  | settling key row time attempt delivery amount text result payments found fresh untried undelivered attempts attempted
      deliveries delivered called answered aggregated =>
      intro id stored committed
      rw [World.cell_commit] at committed
      by_cases held : (state.shared.cell .payment_attempts id).HeldBy run
      · rcases held with ⟨draft, locked⟩
        rcases (attempts id draft).mp locked with ⟨rfl, rfl⟩
        rw [Cell.commit_of_lock locked] at committed
        cases committed
        rcases attempted with ⟨rfl, _, named⟩
        have ended : ((state.shared.commit run).cell .payments attempt.payment_id).committed =
            some (finished row (Properties.verdict result) time) := by
          rw [World.cell_commit, Cell.commit_of_lock ((payments _ _).mpr ⟨rfl, rfl⟩)]
        have grown : state.shared.trace <:+ (state.shared.commit run).trace := evolves.trace
        have own : row.id = attempt.payment_id := kept.keyed .payments _ row (.committed found)
        rcases tracks attempt.id attempt locked untried with begun | ⟨given, answers⟩
        · exact absurd begun.status (status_ne_verdict _ _ named)
        · rcases answers.returned with ⟨other, returned⟩
          cases same_answer reached (own_mem.mp answered) (own_mem.mp returned)
          rcases kept.ordered run attempt.payment_id amount text (own_mem.mp called) with ⟨row', found', orders⟩
          cases found.symm.trans found'
          refine ⟨_, ended, final_finished (verdict_terminal result) time, run, result, ⟨amount, text, ?_, ?_⟩, ?_, rfl,
            answers.reflects, grown.mem (own_mem.mp answers.shown)⟩
          · rw [← own] at called
            exact grown.mem (own_mem.mp called)
          · exact orders.of_origin (origin_finished _ _)
          · rw [← own] at answered
            exact grown.mem (own_mem.mp answered)
      · rw [Cell.commit_of_not_heldBy held] at committed
        rcases settled id stored committed with ⟨before, found', final, owner, given, charged⟩
        rcases evolves.grows stored.payment_id before found' with ⟨later, found'', grows⟩
        cases grows.of_final final
        exact ⟨before, found'', final, owner, given, charged.mono evolves.trace⟩

/-- What is tracked of the transactions, and what is committed. -/
theorem attempts_kept {state : (service deployment).State}
    (reached : Machine.Reachable (fun _ _ => True) World.initial state) :
    (forall run, TracksCharge run state.shared) ∧ AttemptsSettled state.shared := by
  induction reached with
  | refl =>
      refine ⟨fun run id attempt locked => ?_, fun id attempt committed => ?_⟩
      · cases locked
      · cases committed
  | @step state next action earlier taken admitted inductionHypothesis =>
      rcases inductionHypothesis with ⟨tracks, settled⟩
      have evolves : PaymentsEvolve state.shared next.shared :=
        (payment_verified deployment).evolves earlier (.step action .refl taken trivial)
      rcases Machine.step_cases taken with
        ⟨other, job, shared, absent, started, rfl⟩ | ⟨other, job, op, rest, choice, outcome, running, ran, rfl⟩ |
        ⟨other, job, op, rest, running, rfl⟩ | ⟨event, shared, happened, rfl⟩
      · rcases start_cases started with same | ⟨settings, message, _, _, same⟩
        · exact same ▸ ⟨tracks, settled⟩
        · rw [same] at evolves ⊢
          refine ⟨fun run => ?_, settled.kept evolves (fun _ _ committed => committed)⟩
          refine (tracks run).kept (fun event listed => ?_) (fun _ _ locked vacant => ⟨locked, vacant⟩)
          exact own_mem.mpr (evolves.trace.mem (own_mem.mp listed))
      · have executed := service_executed ran
        refine ⟨fun run => ?_, ?_⟩
        · by_cases mine : run = other
          · subst mine
            exact (tracks run).executed (attempt_arguments earlier running) executed
          · exact (tracks run).untouched (executed.untouched mine)
        · by_cases commits : op = .commit
          · subst commits
            cases outcome with
            | mk after answer =>
                cases executed with
                | raised => exact settled
                | committed answer known accepting =>
                    rcases ((payment_verified deployment).permitted earlier running).committing rfl with
                      refusing | installs
                    · cases accepting.symm.trans refusing
                    · exact settled.commit earlier (tracks other) evolves installs
          · refine settled.kept evolves (fun id attempt committed => ?_)
            exact ((executed.cell .payment_attempts id).committed_same commits).symm.trans committed
      · refine ⟨fun run => ?_, settled.kept evolves (fun id attempt committed => ?_)⟩
        · by_cases mine : run = other
          · subst mine
            intro id attempt locked
            have locked : ((World.crash run state.shared).cell .payment_attempts id).lock = some (run, some attempt) :=
              locked
            rw [World.crash_cell] at locked
            exact absurd ⟨_, locked⟩ Cell.not_heldBy_rollback
          · exact (tracks run).untouched (World.crash_untouched mine)
        · have committed : ((World.crash other state.shared).cell .payment_attempts id).committed = some attempt :=
            committed
          rwa [World.crash_cell, Cell.rollback_committed] at committed
      · have occurred := World.happen_occurred happened
        refine ⟨fun run => (tracks run).untouched (occurred.untouched run),
          settled.kept evolves (fun id attempt committed => ?_)⟩
        rwa [occurred.cell] at committed

/-! ## What a read shows of the charge -/

/-- The attempt of a read is the charge of the payment that the read shows. -/
structure ShowsCharge (trace : List Entry) (dto : PaymentDTO) (attempt : AttemptDTO) (run : RunId)
    (result : GatewayResult) : Prop where
  called : Exists fun amount => Exists fun text => (.run run, .charge_called dto.payment_id amount text) ∈ trace ∧
    amount.amount = dto.amount ∧ amount.currency.value = dto.currency ∧ text = dto.idempotency_key
  returned : (.run run, .charge_returned dto.payment_id result) ∈ trace
  attempt_number : attempt.attempt_number = 1
  status : attempt.status = (verdict result).value
  error : attempt.error = if result.success then none else result.error
  gateway_response : attempt.gateway_response = if result.success then result.raw else none
  shown : (.run run, .clock_read attempt.created_at) ∈ trace

theorem ChargedAs.shows {dto : PaymentDTO} (charged : ChargedAs trace row attempt run result) (shows : ShowsOrder dto row)
    (number : attempt.attempt_number = 1) (named : attempt.status.value = row.status.value) :
    ShowsCharge trace dto (AttemptDTO.from_attempt attempt.to_domain) run result := by
  rcases charged.called with ⟨amount, text, called, orders⟩
  exact
    { called := ⟨amount, text, shows.payment_id ▸ called, orders.amount.trans shows.amount.symm,
        orders.currency.trans shows.currency.symm, orders.idempotency_key.trans shows.idempotency_key.symm⟩
      returned := shows.payment_id ▸ charged.returned
      attempt_number := number
      status := named.trans (congrArg PaymentStatus.value charged.verdict)
      error := charged.reflects.error
      gateway_response := charged.reflects.gateway_response
      shown := charged.shown }

/-- A read shows no attempt, and then a pending payment, or the one attempt
that was made, with what the gateway has answered to it. -/
theorem attempts_shown {state : (service deployment).State} {query : GetPaymentQuery} {dto : PaymentDTO}
    (reached : Machine.Reachable (fun _ _ => True) World.initial state)
    (returned : state.phase run = .running (.get query) (.ret dto)) :
    (dto.attempts = some [] ∧ dto.status = "pending") ∨
      Exists fun attempt => dto.attempts = some [attempt] ∧ (dto.status = "pending" ∨ dto.status = attempt.status) ∧
        Exists fun charger => Exists fun result => ShowsCharge state.shared.trace dto attempt charger result := by
  rcases query with ⟨key⟩
  rcases reads_of_returned reached returned with ⟨first, second, row, reads⟩
  rcases reads.shows with ⟨payment, load, shown⟩
  have loaded := loaded_from load
  have reached' := reads.reached.trans reads.between
  have kept := (payment_verified deployment).invariant reached'
  rcases ((payment_verified deployment).evolves reads.reached reads.between).grows key row reads.found with
    ⟨later, found, grows⟩
  have pending : Fresh row -> dto.status = "pending" := by
    intro fresh
    rw [shown, PaymentDTO.from_payment, loaded.status, fresh.status]
    rfl
  cases kept.shaped key later found with
  | pending fresh untried =>
      have fresh : Fresh row := by
        cases grows with
        | same unchanged => exact unchanged ▸ fresh
        | ended before _ _ => exact before
      refine .inl ⟨?_, pending fresh⟩
      rw [shown, PaymentDTO.from_payment, untried.committed_attempts]
      rfl
  | ended final tried =>
      rcases tried.attempt with ⟨attempt, sole, number, named⟩
      have listed := sole.shows_attempts
      rcases sole with ⟨id, committed, own, _⟩
      have own : attempt.payment_id = key := own
      subst own
      rcases (attempts_kept reached').2 id attempt committed with ⟨row', found', _, charger, result, charged⟩
      cases found.symm.trans found'
      have grown := ((payment_verified deployment).evolves reached' reads.later).trace
      have shows : ShowsOrder dto later := by
        rw [shown]
        exact (shows_order load _).of_origin grows.origin
      refine .inr ⟨AttemptDTO.from_attempt attempt.to_domain, ?_, ?_, charger, result,
        (charged.mono grown).shows shows number named⟩
      · rw [shown, PaymentDTO.from_payment, listed]
        rfl
      · cases grows with
        | ended fresh _ _ => exact .inl (pending fresh)
        | same unchanged =>
            refine .inr ?_
            rw [shown, PaymentDTO.from_payment, loaded.status, ← unchanged]
            exact named.symm

theorem charge_read : exists (state : (service sample_deployment).State) (dto : PaymentDTO) (attempt : AttemptDTO)
    (charger : RunId) (result : GatewayResult), dto.attempts = some [attempt] ∧ dto.status = "succeeded" ∧
      ShowsCharge state.shared.trace dto attempt charger result := by
  have read : (Machine.runFrom (Machine.fresh World.initial)
      (creating ++ charging 1 3 ++ settling 1 4 ++ reading_once 2)).bind
        (fun state => (read_dto 2 state).map PaymentDTO.status) = some "succeeded" := by decide +kernel
  rcases Option.bind_eq_some_iff.mp read with ⟨state, ran, read⟩
  rcases Option.map_eq_some_iff.mp read with ⟨dto, known, status⟩
  rcases attempts_shown (Machine.Path.of_runFrom _ ran) (of_read_dto known) with
    ⟨_, pending⟩ | ⟨attempt, single, _, charger, result, shows⟩
  · exact absurd (status.symm.trans pending) (by decide)
  · exact ⟨state, dto, attempt, charger, result, single, status, shows⟩

end Properties
end Payments
