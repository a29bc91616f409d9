import Payments.Properties.PaymentConsumers

namespace Payments
namespace Properties

open Concurrency Domain Infrastructure Application Prog UnitOfWork Payments.System

/-!
# What a committed payment looks like, and who may charge it

The results of this module hold in every reachable state of the service: any
number of requests, consumers and workers, interleaved in any way, with
exceptions, failed commits and crashes wherever they may happen.  A run that
charges keeps its transaction, and with it the lock of the payment, until it
ends it: no connection is dropped by the server meanwhile.
-/

variable {deployment : Deployment}

/-! ## The joint invariant of the payment tables -/

/-- A committed payment is pending, without attempt and delivery, or it has
ended, with exactly one of each, and then it never changes again. -/
theorem payment_tables_joint {state : (service deployment).State}
    (reached : Machine.Reachable (fun _ _ => True) World.initial state) {key : UUID} {row : PaymentModel}
    (found : (state.shared.cell .payments key).committed = some row) :
    row.id = key ∧
      Xor (Fresh row ∧ Untried key state.shared) (Final row ∧ Tried key row.status state.shared) ∧
      row.status ≠ .PROCESSING ∧
      (forall later : (service deployment).State, Final row -> Machine.Path (fun _ _ => True) state later ->
        (later.shared.cell .payments key).committed = some row) := by
  have kept := (payment_verified deployment).invariant reached
  have own : row.id = key := kept.keyed .payments key row (.committed found)
  refine ⟨own, ?_, ?_, ?_⟩
  · cases kept.shaped key row found with
    | pending fresh untried => exact .inl ⟨⟨fresh, untried⟩, fun ended => fresh.not_final ended.1⟩
    | ended final tried => exact .inr ⟨⟨final, tried⟩, fun pending => pending.1.not_final final⟩
  · intro processing
    rcases kept.fresh_or_final found with fresh | final
    · rw [fresh.status] at processing
      cases processing
    · have terminal := final.terminal
      rw [processing] at terminal
      cases terminal
  · intro later final path
    rcases ((payment_verified deployment).evolves reached path).grows key row found with ⟨last, found', grows⟩
    rw [grows.of_final final] at found'
    exact found'

/-! ## A run of the service -/

def sample_deployment : Deployment where
  outbox_settings := fun _ => true
  retry_policy := .of_defaults

def five_euros : CreatePaymentCommand where
  idempotency_key := "order-1"
  amount := .finite false 500 (-2)
  currency := "EUR"
  description := none
  metadata := .null
  webhook_url := "https://shop"
  correlation_id := some "request-1"

/-- Run 0 creates payment 1. -/
def creating : List (service sample_deployment).Action :=
  [.start 0 (.create five_euros), .perform 0 (.calm 10 0), .perform 0 (.calm 10 1), .perform 0 (.calm 10 0),
    .perform 0 (.calm 10 2), .perform 0 (.calm 10 0), .perform 0 (.calm 10 0), .perform 0 (.calm 10 0)]

/-- A run processes payment 1 up to the call of the gateway. -/
def charging (run attempt_id : Nat) : List (service sample_deployment).Action :=
  [.start run (.process ⟨1, some "request-1"⟩), .perform run (.calm 20 0), .perform run (.calm 20 0),
    .perform run (.calm 20 0), .perform run (.calm 20 0), .perform run (.calm 20 attempt_id),
    .perform run (.calm 20 0), .perform run (.calm 20 0)]

/-- The gateway answers, and the run commits. -/
def settling (run delivery_id : Nat) : List (service sample_deployment).Action :=
  [.perform run (.calm 30 0), .perform run (.calm 30 0), .perform run (.calm 30 0), .perform run (.calm 30 0),
    .perform run (.calm 30 delivery_id), .perform run (.calm 30 0), .perform run (.calm 30 0),
    .perform run (.calm 30 0)]

theorem succeeded_payment_joint :
    Exists fun state : (service sample_deployment).State => Exists fun row =>
      (state.shared.cell .payments 1).committed = some row ∧ row.status = .SUCCEEDED ∧
        Tried 1 .SUCCEEDED state.shared := by
  have processed : (Machine.runFrom (Machine.fresh World.initial) (creating ++ charging 1 3 ++ settling 1 4)).map
      (fun state => (state.shared.cell .payments 1).committed.map PaymentModel.status) =
      some (some .SUCCEEDED) := by decide +kernel
  rcases Option.map_eq_some_iff.mp processed with ⟨state, ran, found⟩
  rcases Option.map_eq_some_iff.mp found with ⟨row, committed, status⟩
  have joint := payment_tables_joint (Machine.Path.of_runFrom _ ran) committed
  rcases joint.2.1 with ⟨⟨fresh, _⟩, _⟩ | ⟨⟨_, tried⟩, _⟩
  · rw [fresh.status] at status
    cases status
  · exact ⟨state, row, committed, status, status ▸ tried⟩

/-! ## Exclusive charges -/

/-- Two runs cannot both have ended a payment. -/
theorem PaymentsKept.ended_by {world : World} (kept : PaymentsKept world) {run other : RunId} {key : UUID}
    {record record' : Record} {row row' : PaymentModel} (first : (.run run, .committed record) ∈ world.trace)
    (listed : (key, some row) ∈ record .payments) (final : Final row)
    (second : (.run other, .committed record') ∈ world.trace) (listed' : (key, some row') ∈ record' .payments)
    (final' : Final row') : run = other := by
  by_contra different
  have entries : ((.run run, .committed record) : Entry) ≠ (.run other, .committed record') := by
    intro same
    cases same
    exact different rfl
  rcases kept.ends.of_two first second entries with ⟨earlier, allowed, before⟩ | ⟨earlier, allowed, before⟩
  · exact (allowed run record key row rfl listed final).1 other record' row' before listed' final'
  · exact (allowed other record' key row' rfl listed' final').1 run record row before listed final

/-- What a handler that has returned has done: it has charged and ended the
payment, or it has left everything as it was. -/
inductive Reported (run : RunId) (key : UUID) (world : World) : PaymentProcessingOutcome -> Prop where
  | ended (result : GatewayResult) (called : Called key (world.own run)) :
      Reported run key world (reported result)
  | lost (outcome : PaymentProcessingOutcome) (unused : Unused (world.own run))
      (named : outcome = .ALREADY_TERMINAL ∨ outcome = .CLAIM_CONFLICT ∨ outcome = .NOT_FOUND) :
      Reported run key world outcome

theorem Concluded.reported {world : World} {run : RunId} {key : UUID} {earlier : List Entry}
    {outcome : PaymentProcessingOutcome} (concluded : Concluded run key earlier world outcome) :
    Reported run key world outcome := by
  cases concluded with
  | settled row result found final status clear answered => exact .ended result answered.1
  | lost outcome row named found final clear unused => exact .lost outcome unused (named.imp_right .inl)
  | missing unmentioned clear unused => exact .lost .NOT_FOUND unused (.inr (.inr rfl))

/-- A run on a committed payment that has returned when another one has ended it
has lost the race. -/
theorem Concluded.lost_to {world : World} {run other : RunId} {key : UUID} {earlier : List Entry}
    {outcome : PaymentProcessingOutcome} (concluded : Concluded run key earlier world outcome)
    (kept : PaymentsKept world) (mentioned : ¬ Unmentioned key earlier) {record : Record} {row : PaymentModel}
    (recorded : (.run other, .committed record) ∈ world.trace) (listed : (key, some row) ∈ record .payments)
    (final : Final row) (different : other ≠ run) :
    (outcome = .ALREADY_TERMINAL ∨ outcome = .CLAIM_CONFLICT) ∧ Unused (world.own run) := by
  cases concluded with
  | settled row' result found final' status clear answered record' recorded' installed =>
      exact absurd (kept.ended_by recorded listed final (own_mem.mp recorded') installed final') different
  | lost outcome row' named found final' clear unused => exact ⟨named, unused⟩
  | missing unmentioned => exact absurd unmentioned mentioned

/-- A run that is started when the payment is committed does not miss it. -/
theorem found_when_started {first state : (service deployment).State}
    (reached : Machine.Reachable (fun _ _ => True) World.initial first)
    (path : Machine.Path (fun _ _ => True) first state) {run : RunId} {command : ProcessPaymentCommand}
    {row : PaymentModel} (found : (first.shared.cell .payments command.payment_id).committed = some row)
    (absent : first.phase run = .absent) {value : PaymentProcessingResult}
    (returned : state.phase run = .running (.process command) (.ret value)) :
    Exists fun earlier => Concluded run command.payment_id earlier state.shared value.outcome ∧
      ¬ Unmentioned command.payment_id earlier := by
  rcases path.started absent returned with ⟨before, after, starts⟩
  have reached' : Machine.Reachable (fun _ _ => True) World.initial before := reached.trans starts.earlier
  have holds := (payment_verified deployment).sound reached'
  have mentioned : ¬ Unmentioned command.payment_id before.shared.trace := by
    intro unmentioned
    rcases ((payment_verified deployment).evolves reached starts.earlier).grows command.payment_id row found with
      ⟨last, found', _⟩
    rcases holds.inv.recorded command.payment_id last found' with ⟨other, record, recorded, listed⟩
    exact unmentioned other record last recorded listed
  have same : after.shared = before.shared := (Option.some.inj starts.started).symm
  have unstarted := holds.absent run starts.absent
  have begins : @starting deployment run before.shared.trace after.shared := by
    rw [same]
    exact ⟨spotless_of_unstarted unstarted.1 unstarted.2, List.suffix_refl _⟩
  have holds' := (payment_verified deployment).sound (reached'.step _ starts.taken trivial)
  have safe := process_triple command after.shared holds'.inv begins
  rcases holds'.follows starts.later starts.running safe with crashed | ⟨rest, running, safe'⟩
  · rw [returned] at crashed
    cases crashed
  · rw [returned] at running
    cases running
    exact ⟨before.shared.trace, safe', mentioned⟩

/-- Charges of one payment exclude each other: no two calls overlap; a further
one is issued after a rollback of the earlier run only, and none after the
payment has ended; a run whose payment is ended by another one reports so and
has done nothing; and the outcome `NOT_PENDING` and the version conflict cannot
occur. -/
theorem charges_exclusive {state : (service deployment).State}
    (reached : Machine.Reachable (fun _ _ => True) World.initial state) :
    (forall run other key, state.pending run = some (.charge_return key) ->
      state.pending other = some (.charge_return key) -> run = other) ∧
    Along ChargeAllowed state.shared.trace ∧
    (forall run command value, state.phase run = .running (.process command) (.ret value) ->
      Reported run command.payment_id state.shared value.outcome) ∧
    (forall (first : (service deployment).State) run command value row other record final,
      Machine.Reachable (fun _ _ => True) World.initial first -> Machine.Path (fun _ _ => True) first state ->
      first.phase run = .absent -> (first.shared.cell .payments command.payment_id).committed = some row ->
      state.phase run = .running (.process command) (.ret value) ->
      (.run other, .committed record) ∈ state.shared.trace ->
      (command.payment_id, some final) ∈ record .payments -> Final final -> other ≠ run ->
      (value.outcome = .ALREADY_TERMINAL ∨ value.outcome = .CLAIM_CONFLICT) ∧ Unused (state.shared.own run)) ∧
    (forall run command error id, state.phase run = .running (.process command) (.raise error) ->
      error ≠ .versionConflict id) := by
  have kept := (payment_verified deployment).invariant reached
  refine ⟨fun run other key pending pending' => ?_, kept.history, fun run command value returned => ?_,
    fun first run command value row other record final reached' path absent found returned recorded listed ended
      different => ?_, fun run command error id raised => ?_⟩
  · rcases Machine.State.running_of_pending pending with ⟨job, next, running⟩
    rcases Machine.State.running_of_pending pending' with ⟨job', next', running'⟩
    have held := ((payment_verified deployment).permitted reached running).awaiting key rfl
    have held' := ((payment_verified deployment).permitted reached running').awaiting key rfl
    exact held.1.unique held'.1
  · rcases (payment_verified deployment).returned reached returned with ⟨earlier, concluded⟩
    exact concluded.reported
  · rcases found_when_started reached' path found absent returned with ⟨earlier, concluded, mentioned⟩
    exact concluded.lost_to kept mentioned recorded listed ended different
  · have failing := (payment_verified deployment).raised reached raised
    rintro rfl
    cases failing.2

/-- Run 1 charges the payment, and run 2 has been started too. -/
def contending : List (service sample_deployment).Action :=
  creating ++ charging 1 3 ++ [.start 2 (.process ⟨1, none⟩), .perform 2 (.calm 20 0)]

theorem charging_alone :
    Exists fun state : (service sample_deployment).State => state.pending 1 = some (.charge_return 1) ∧
      forall other, state.pending other = some (.charge_return 1) -> other = 1 := by
  have charging_now : (Machine.runFrom (Machine.fresh World.initial) contending).map
      (fun state => state.pending 1) = some (some (.charge_return 1)) := by with_unfolding_all rfl
  rcases Option.map_eq_some_iff.mp charging_now with ⟨state, ran, pending⟩
  refine ⟨state, pending, fun other pending' => ?_⟩
  exact (charges_exclusive (Machine.Path.of_runFrom _ ran)).1 other 1 1 pending' pending

end Properties
end Payments
