import Payments.Properties.PaymentFinality

namespace Payments
namespace Properties

open Concurrency Domain Infrastructure Application Prog UnitOfWork Payments.System

/-!
# The gateway and the database

The gateway and the database share no transaction: an answer may be lost with
the transaction that has received it, and then the payment is charged again.
These results say what remains true of the two stores together, for any gateway
and for one that answers every charge of a key as it has answered the first.
-/

variable {deployment : Deployment}

/-! ## Answers along the trace -/

/-- A run is answered once, after its charge and within its transaction. -/
def AnswerAllowed (entry : Entry) (earlier : List Entry) : Prop :=
  forall run key result, entry = (.run run, .charge_returned key result) ->
    (Exists fun amount => Exists fun text => (.run run, .charge_called key amount text) ∈ earlier) ∧
    (forall key' result', (.run run, .charge_returned key' result') ∉ earlier) ∧
    (.run run, .rolled_back) ∉ earlier

theorem answers_allowed {state : (service deployment).State}
    (reached : Machine.Reachable (fun _ _ => True) World.initial state) :
    Along AnswerAllowed state.shared.trace := by
  refine reachable_along ?_ ?_ ?_ ?_ reached
  · rintro run message earlier other key result same
    cases same
  · rintro run earlier other key result same
    cases same
  · rintro state event after reached' occurred recorded other key result same
    cases same
  · intro state run op event reached' pending records other key result same
    rcases Machine.State.running_of_pending pending with ⟨job, next, running⟩
    cases same
    cases records with
    | charge_returned =>
        have waiting := (((payment_verified deployment).permitted reached' running).awaiting key rfl).2
        rcases waiting.called with ⟨amount, text, called⟩
        exact ⟨⟨amount, text, own_mem.mp called⟩, fun key' result' listed => waiting.unanswered key' result'
          (own_mem.mpr listed), fun listed => waiting.unfinished (own_mem.mpr listed)⟩

/-- A run has one answer. -/
theorem answer_unique {state : (service deployment).State}
    (reached : Machine.Reachable (fun _ _ => True) World.initial state) {run : RunId} {key key' : UUID}
    {result result' : GatewayResult} (first : (.run run, .charge_returned key result) ∈ state.shared.trace)
    (second : (.run run, .charge_returned key' result') ∈ state.shared.trace) : result = result' := by
  by_contra different
  have entries : ((.run run, .charge_returned key result) : Entry) ≠ (.run run, .charge_returned key' result') := by
    intro same
    cases same
    exact different rfl
  rcases (answers_allowed reached).of_two first second entries with ⟨earlier, allowed, before⟩ | ⟨earlier, allowed, before⟩
  · exact (allowed run key result rfl).2.1 key' result' before
  · exact (allowed run key' result' rfl).2.1 key result before

theorem Orders.agree {row : PaymentModel} {amount amount' : Money} {text text' : String}
    (orders : Orders row amount text) (orders' : Orders row amount' text') :
    amount.amount = amount'.amount ∧ amount.currency = amount'.currency ∧ text = text' := by
  refine ⟨orders.amount.trans orders'.amount.symm, ?_, orders.idempotency_key.trans orders'.idempotency_key.symm⟩
  have values : amount.currency.value = amount'.currency.value := orders.currency.trans orders'.currency.symm
  generalize amount.currency = first at values
  generalize amount'.currency = second at values
  cases first <;> cases second <;> first | rfl | exact absurd values (by decide)

/-- What follows a successful charge: a further one needs a rollback of its run
first and asks for the same, and once the run has committed the end of the
payment it has succeeded and is never charged again. -/
theorem successful_charge_final {state : (service deployment).State}
    (reached : Machine.Reachable (fun _ _ => True) World.initial state) {run : RunId} {key : UUID}
    {result : GatewayResult} {later earlier : List Entry}
    (split : state.shared.trace = later ++ (.run run, .charge_returned key result) :: earlier)
    (success : result.success = true) :
    (forall recent since other amount text,
      later = recent ++ (.run other, .charge_called key amount text) :: since ->
      (.run run, .rolled_back) ∈ since ∧
      forall amount' text', (.run run, .charge_called key amount' text') ∈ earlier ->
        amount.amount = amount'.amount ∧ amount.currency = amount'.currency ∧ text = text') ∧
    (forall recent before record row, state.shared.trace = recent ++ (.run run, .committed record) :: before ->
      (key, some row) ∈ record .payments -> Final row ->
      row.status = .SUCCEEDED ∧ (state.shared.cell .payments key).committed = some row ∧
      forall other amount text, (.run other, .charge_called key amount text) ∉ recent) := by
  have kept := (payment_verified deployment).invariant reached
  have answered := (answers_allowed reached).at_split split run key result rfl
  have listed : (.run run, .charge_returned key result) ∈ state.shared.trace := by
    rw [split]
    exact List.mem_append_right _ List.mem_cons_self
  refine ⟨fun recent since other amount text further => ⟨?_, fun amount' text' called => ?_⟩,
    fun recent before record row committed installed final => ⟨?_, ?_, fun other amount text further => ?_⟩⟩
  · rcases answered.1 with ⟨amount', text', called⟩
    rcases List.append_of_mem called with ⟨between, start, parts⟩
    have whole : state.shared.trace = recent ++ (.run other, .charge_called key amount text) ::
        (since ++ (.run run, .charge_returned key result) :: earlier) := by
      rw [split, further]
      simp
    have allowed := (kept.history.at_split whole other key amount text rfl).1
      (since ++ (.run run, .charge_returned key result) :: between) start run amount' text' (by rw [parts]; simp)
    rcases List.mem_append.mp allowed.2 with found | found
    · exact found
    · rcases List.mem_cons.mp found with impossible | early
      · cases impossible
      · refine absurd ?_ answered.2.2
        rw [parts]
        exact List.mem_append_left _ early
  · have further' : (.run other, .charge_called key amount text) ∈ state.shared.trace := by
      rw [split, further]
      simp
    have called' : (.run run, .charge_called key amount' text') ∈ state.shared.trace := by
      rw [split]
      exact List.mem_append_right _ (List.mem_cons_of_mem _ called)
    rcases kept.ordered other key amount text further' with ⟨row, found, orders⟩
    rcases kept.ordered run key amount' text' called' with ⟨row', found', orders'⟩
    rw [found] at found'
    cases found'
    exact orders.agree orders'
  · have ended := kept.ends.at_split committed run record key row rfl installed final
    rcases ended.2 with ⟨amount, text, result', called, answered', status⟩
    have answered'' : (.run run, .charge_returned key result') ∈ state.shared.trace := by
      rw [committed]
      exact List.mem_append_right _ (List.mem_cons_of_mem _ answered')
    rw [status, answer_unique reached answered'' listed, verdict, if_pos success]
  · have recorded : (.run run, .committed record) ∈ state.shared.trace := by
      rw [committed]
      exact List.mem_append_right _ List.mem_cons_self
    rcases kept.installed run record key row recorded installed with ⟨last, found, grows⟩
    rw [grows.of_final final] at found
    exact found
  · rcases List.append_of_mem further with ⟨after, since, parts⟩
    have whole : state.shared.trace = after ++ (.run other, .charge_called key amount text) ::
        (since ++ (.run run, .committed record) :: before) := by
      rw [committed, parts]
      simp
    refine (kept.history.at_split whole other key amount text rfl).2 run record row ?_ installed final
    exact List.mem_append_right _ List.mem_cons_self

/-- The run that has charged payment 1 fails to commit and is rolled back. -/
def failed_commit (run delivery_id : Nat) : List (service sample_deployment).Action :=
  [.perform run (.calm 30 0), .perform run (.calm 30 0), .perform run (.calm 30 0), .perform run (.calm 30 0),
    .perform run (.calm 30 delivery_id), .perform run (.calm 30 0),
    .perform run { Choice.calm 30 0 with interruption := some .failed }, .perform run (.calm 30 0),
    .perform run (.calm 30 0)]

/-- The gateway declines the charge, and the run commits. -/
def declining (run delivery_id : Nat) : List (service sample_deployment).Action :=
  .perform run { Choice.calm 40 0 with gateway := ⟨false, none, some "declined", none⟩ } ::
    (settling run delivery_id).tail

/-- Run 1 is told that payment 1 was charged, and loses this answer with its
transaction; run 2 charges again and is told the opposite. -/
def charged_twice : List (service sample_deployment).Action :=
  creating ++ charging 1 3 ++ failed_commit 1 4 ++ charging 2 5 ++ declining 2 6

/-- The calls of the gateway and its answers, by run. -/
def charge_of : Entry -> Option (RunId × UUID × Option Bool)
  | (.run run, .charge_called key _ _) => some (run, key, none)
  | (.run run, .charge_returned key result) => some (run, key, some result.success)
  | _ => none

theorem charge_of_called {entry : Entry} {run : RunId} {key : UUID} (same : charge_of entry = some (run, key, none)) :
    Exists fun amount => Exists fun text => entry = (.run run, .charge_called key amount text) := by
  unfold charge_of at same
  split at same
  · cases same
    exact ⟨_, _, rfl⟩
  · cases same
  · cases same

theorem charge_of_returned {entry : Entry} {run : RunId} {key : UUID} {success : Bool}
    (same : charge_of entry = some (run, key, some success)) :
    Exists fun result => entry = (.run run, .charge_returned key result) ∧ result.success = success := by
  unfold charge_of at same
  split at same
  · cases same
  · cases same
    exact ⟨_, rfl, rfl⟩
  · cases same

theorem charged_twice_reached :
    Exists fun state : (service sample_deployment).State =>
      Machine.Reachable (fun _ _ => True) World.initial state ∧
      (Exists fun later => Exists fun earlier => Exists fun result => Exists fun amount => Exists fun text =>
        state.shared.trace = later ++ (.run 1, .charge_returned 1 result) :: earlier ∧ result.success = true ∧
        (.run 2, .charge_called 1 amount text) ∈ later) ∧
      Exists fun row => (state.shared.cell .payments 1).committed = some row ∧ row.status = .FAILED := by
  have ran_twice : (Machine.runFrom (Machine.fresh World.initial) charged_twice).map (fun state =>
      (state.shared.trace.filterMap charge_of, (state.shared.cell .payments 1).committed.map PaymentModel.status)) =
      some ([(2, 1, some false), (2, 1, none)] ++ (1, 1, some true) :: [(1, 1, none)], some .FAILED) := by
    decide +kernel
  rcases Option.map_eq_some_iff.mp ran_twice with ⟨state, ran, seen⟩
  rcases Prod.mk.inj seen with ⟨charges, failed⟩
  rcases Option.map_eq_some_iff.mp failed with ⟨row, committed, status⟩
  rcases List.filterMap_eq_append_iff.mp charges with ⟨later, rest, split, after, before⟩
  rcases List.filterMap_eq_cons_iff.mp before with ⟨between, entry, earlier, split', _, answered, _⟩
  rcases charge_of_returned answered with ⟨result, rfl, success⟩
  have again : (2, 1, none) ∈ later.filterMap charge_of := by
    rw [after]
    simp
  rcases List.mem_filterMap.mp again with ⟨entry, listed, called⟩
  rcases charge_of_called called with ⟨amount, text, rfl⟩
  refine ⟨state, Machine.Path.of_runFrom _ ran, ⟨later ++ between, earlier, result, amount, text, ?_, success, ?_⟩,
    row, committed, status⟩
  · rw [split, split', List.append_assoc]
  · exact List.mem_append_left _ listed

/-- After a successful answer the payment is charged again and ends as failed. -/
theorem success_not_final :
    ¬ forall (state : (service sample_deployment).State) (later earlier : List Entry) (run : RunId) (key : UUID)
        (result : GatewayResult), Machine.Reachable (fun _ _ => True) World.initial state ->
      state.shared.trace = later ++ (.run run, .charge_returned key result) :: earlier -> result.success = true ->
      (forall other amount text, (.run other, .charge_called key amount text) ∉ later) ∧
      forall row, (state.shared.cell .payments key).committed = some row -> row.status ≠ .FAILED := by
  intro claimed
  rcases charged_twice_reached with ⟨state, reached, ⟨later, earlier, result, amount, text, split, success, again⟩, _⟩
  exact (claimed state later earlier 1 1 result reached split success).1 2 amount text again

/-- In the same run, the second charge was issued after the rollback of the first. -/
theorem second_charge_after_rollback :
    Exists fun state : (service sample_deployment).State => Exists fun since => Exists fun recent =>
      Exists fun earlier => Exists fun result => Exists fun amount => Exists fun text =>
        state.shared.trace = recent ++ (.run 2, .charge_called 1 amount text) ::
          (since ++ (.run 1, .charge_returned 1 result) :: earlier) ∧
        result.success = true ∧ (.run 1, .rolled_back) ∈ since := by
  rcases charged_twice_reached with ⟨state, reached, ⟨later, earlier, result, amount, text, split, success, again⟩, _⟩
  rcases List.append_of_mem again with ⟨recent, since, parts⟩
  have final := (successful_charge_final reached split success).1 recent since 2 amount text parts
  exact ⟨state, since, recent, earlier, result, amount, text, by rw [split, parts]; simp, success, final.1⟩

/-! ## A gateway that deduplicates -/

/-- The outcomes that the gateway has recorded, by idempotency key. -/
abbrev Ledger := String -> Option Bool

/-- The runs of the service with a gateway that records the first outcome of a
key and answers every later charge by it.  It may record before or after a
call fails, and it need not answer. -/
inductive Deduplicated (deployment : Deployment) : (service deployment).State -> Ledger -> Prop where
  | begin : Deduplicated deployment (Machine.fresh World.initial) (fun _ => none)
  | records {state : (service deployment).State} {ledger : Ledger} (run : RunId) (key : UUID) (amount : Money)
      (text : String) (success : Bool) (earlier : Deduplicated deployment state ledger)
      (asked : (.run run, .charge_called key amount text) ∈ state.shared.trace) (first : ledger text = none) :
      Deduplicated deployment state (Function.update ledger text (some success))
  | step {state next : (service deployment).State} {ledger : Ledger} (action : (service deployment).Action)
      (earlier : Deduplicated deployment state ledger) (taken : Machine.step state action = some next)
      (answers : forall run key result amount text,
        next.shared.trace = (.run run, .charge_returned key result) :: state.shared.trace ->
        (.run run, .charge_called key amount text) ∈ state.shared.trace -> ledger text = some result.success) :
      Deduplicated deployment next ledger

theorem Deduplicated.reachable {state : (service deployment).State} {ledger : Ledger}
    (deduplicated : Deduplicated deployment state ledger) :
    Machine.Reachable (fun _ _ => True) World.initial state := by
  induction deduplicated with
  | begin => exact .refl
  | records _ _ _ _ _ _ _ _ inductionHypothesis => exact inductionHypothesis
  | step action _ taken _ inductionHypothesis => exact inductionHypothesis.step action taken trivial

/-- What a run was answered is what the gateway has recorded for its key. -/
def Agrees (trace : List Entry) (ledger : Ledger) : Prop :=
  forall run key result amount text, (.run run, .charge_returned key result) ∈ trace ->
    (.run run, .charge_called key amount text) ∈ trace -> ledger text = some result.success

theorem Deduplicated.agrees {state : (service deployment).State} {ledger : Ledger}
    (deduplicated : Deduplicated deployment state ledger) : Agrees state.shared.trace ledger := by
  induction deduplicated with
  | begin =>
      intro run key result amount text answered
      cases answered
  | records run key amount text success earlier asked first inductionHypothesis =>
      intro other key' result amount' text' answered called
      have known := inductionHypothesis other key' result amount' text' answered called
      have different : text' ≠ text := by
        rintro rfl
        rw [first] at known
        cases known
      rw [Function.update_of_ne different]
      exact known
  | @step state next ledger action earlier taken answers inductionHypothesis =>
      intro run key result amount text answered called
      have reached := earlier.reachable
      have kept := (payment_verified deployment).invariant (reached.step action taken trivial)
      rcases trace_step taken with same | ⟨entry, grown⟩
      · rw [same] at answered called
        exact inductionHypothesis run key result amount text answered called
      · rw [grown] at answered called
        rcases List.mem_cons.mp answered with now | before
        · rcases List.mem_cons.mp called with impossible | asked
          · rw [← now] at impossible
            cases impossible
          · exact answers run key result amount text (now ▸ grown) asked
        · rcases List.mem_cons.mp called with now | asked
          · -- A run that has been answered has issued its only charge.
            rcases List.append_of_mem before with ⟨recent, start, split⟩
            rcases ((answers_allowed reached).at_split split run key result rfl).1 with ⟨amount', text', asked⟩
            rcases List.append_of_mem asked with ⟨between, start', split'⟩
            have history := kept.history
            rw [grown, ← now] at history
            have allowed := (history.1 run key amount text rfl).1
              (recent ++ (.run run, .charge_returned key result) :: between) start' run amount' text'
              (by rw [split, split']; simp)
            exact absurd rfl allowed.1
          · exact inductionHypothesis run key result amount text before asked

/-- The database agrees with a deduplicating gateway on every ended payment, and
no two payments are charged under one key. -/
theorem gateway_agrees {state : (service deployment).State} {ledger : Ledger}
    (deduplicated : Deduplicated deployment state ledger) :
    (forall key row, (state.shared.cell .payments key).committed = some row ->
      (row.status = .SUCCEEDED -> ledger row.idempotency_key = some true) ∧
      (row.status = .FAILED -> ledger row.idempotency_key = some false)) ∧
    (forall run other key key' amount amount' text, (.run run, .charge_called key amount text) ∈ state.shared.trace ->
      (.run other, .charge_called key' amount' text) ∈ state.shared.trace -> key = key') := by
  have kept := (payment_verified deployment).invariant deduplicated.reachable
  refine ⟨fun key row found => ?_, fun run other key key' amount amount' text called called' => ?_⟩
  · have recorded : row.status ≠ .PENDING -> Exists fun result : GatewayResult =>
        row.status = verdict result ∧ ledger row.idempotency_key = some result.success := by
      intro started
      have final : Final row := by
        rcases kept.fresh_or_final found with fresh | final
        · exact absurd fresh.status started
        · exact final
      rcases kept.recorded key row found with ⟨run, record, recorded, installed⟩
      rcases List.append_of_mem recorded with ⟨recent, before, split⟩
      rcases (kept.ends.at_split split run record key row rfl installed final).2 with
        ⟨amount, text, result, called, answered, status⟩
      have earlier : forall {entry}, entry ∈ before -> entry ∈ state.shared.trace := by
        intro entry listed
        rw [split]
        exact List.mem_append_right _ (List.mem_cons_of_mem _ listed)
      rcases kept.ordered run key amount text (earlier called) with ⟨row', found', orders⟩
      rw [found] at found'
      cases found'
      refine ⟨result, status, ?_⟩
      rw [← orders.idempotency_key]
      exact deduplicated.agrees run key result amount text (earlier answered) (earlier called)
    refine ⟨fun succeeded => ?_, fun failed => ?_⟩
    · rcases recorded (by rw [succeeded]; simp) with ⟨result, status, outcome⟩
      rw [outcome]
      rw [succeeded, verdict] at status
      split at status
      · next success => rw [success]
      · cases status
    · rcases recorded (by rw [failed]; simp) with ⟨result, status, outcome⟩
      rw [outcome]
      rw [failed, verdict] at status
      split at status
      · cases status
      · next declined => rw [Bool.eq_false_iff.mpr declined]
  · rcases kept.ordered run key amount text called with ⟨row, found, orders⟩
    rcases kept.ordered other key' amount' text called' with ⟨row', found', orders'⟩
    exact kept.unique key key' row row' (.committed found) (.committed found')
      (orders.idempotency_key.symm.trans orders'.idempotency_key)

/-- Whether the newest entry, if it is an answer, is the recorded outcome. -/
def answered_by (ledger : Ledger) (after : World) : Bool :=
  match after.trace with
  | (.run run, .charge_returned key result) :: earlier =>
      earlier.all (fun entry => match entry with
        | (.run other, .charge_called key' _ text) =>
            decide (other = run -> key' = key -> ledger text = some result.success)
        | _ => true)
  | _ => true

theorem answers_of_checked {ledger : Ledger} {before after : World} (checked : answered_by ledger after = true)
    {run : RunId} {key : UUID} {result : GatewayResult} {amount : Money} {text : String}
    (grown : after.trace = (.run run, .charge_returned key result) :: before.trace)
    (called : (.run run, .charge_called key amount text) ∈ before.trace) : ledger text = some result.success := by
  rw [answered_by, grown] at checked
  exact of_decide_eq_true (List.all_eq_true.mp checked _ called) rfl rfl

/-- A schedule whose answers are the recorded ones is a run with a deduplicating gateway. -/
theorem Deduplicated.of_runChecked {first last : (service deployment).State} {ledger : Ledger}
    (deduplicated : Deduplicated deployment first ledger) (actions : List (service deployment).Action)
    (executed : Machine.runChecked (fun _ after => answered_by ledger after) first actions = some last) :
    Deduplicated deployment last ledger := by
  induction actions generalizing first with
  | nil =>
      cases executed
      exact deduplicated
  | cons action rest inductionHypothesis =>
      rcases Option.bind_eq_some_iff.mp executed with ⟨next, taken, remaining⟩
      split at remaining
      · next checked =>
          refine inductionHypothesis (deduplicated.step action taken ?_) remaining
          intro run key result amount text grown called
          exact answers_of_checked checked grown called
      · cases remaining

/-- The key of a call that run 1 has made for payment 1. -/
def asked_key : Entry -> Option String
  | (.run 1, .charge_called 1 _ text) => some text
  | _ => none

theorem called_of_asked {entry : Entry} {text : String} (asked : asked_key entry = some text) :
    Exists fun amount => entry = (.run 1, .charge_called 1 amount text) := by
  unfold asked_key at asked
  split at asked
  · cases asked
    exact ⟨_, rfl⟩
  · cases asked

def one_success : Ledger :=
  Function.update (fun _ => none) "order-1" (some true)

/-- The outcome of the key is recorded while run 1 waits for it; its commit
fails, and run 2 is answered by the recorded outcome. -/
theorem recorded_success_agrees :
    Exists fun state : (service sample_deployment).State => Exists fun row =>
      Deduplicated sample_deployment state one_success ∧
        (state.shared.cell .payments 1).committed = some row ∧ row.status = .SUCCEEDED ∧
        one_success row.idempotency_key = some true := by
  have retried : (Machine.runChecked (fun _ after => answered_by (fun _ => none) after) (Machine.fresh World.initial)
      (creating ++ charging 1 3)).bind (fun first =>
        (Machine.runChecked (fun _ after => answered_by one_success after) first
          (failed_commit 1 4 ++ charging 2 5 ++ settling 2 6)).map (fun last =>
            (first.shared.trace.filterMap asked_key,
              (last.shared.cell .payments 1).committed.map PaymentModel.status))) =
      some (["order-1"], some .SUCCEEDED) := by decide +kernel
  rcases Option.bind_eq_some_iff.mp retried with ⟨first, before, remaining⟩
  rcases Option.map_eq_some_iff.mp remaining with ⟨last, after, seen⟩
  rcases Prod.mk.inj seen with ⟨keys, succeeded⟩
  rcases Option.map_eq_some_iff.mp succeeded with ⟨row, committed, status⟩
  have listed : "order-1" ∈ first.shared.trace.filterMap asked_key := by
    rw [keys]
    exact List.mem_singleton_self _
  rcases List.mem_filterMap.mp listed with ⟨entry, member, asked⟩
  rcases called_of_asked asked with ⟨amount, rfl⟩
  have started : Deduplicated sample_deployment first (fun _ => none) :=
    Deduplicated.begin.of_runChecked _ before
  have recorded : Deduplicated sample_deployment first one_success :=
    started.records 1 1 amount "order-1" true member rfl
  have finished : Deduplicated sample_deployment last one_success := recorded.of_runChecked _ after
  exact ⟨last, row, finished, committed, status, ((gateway_agrees finished).1 1 row committed).1 status⟩

end Properties
end Payments
