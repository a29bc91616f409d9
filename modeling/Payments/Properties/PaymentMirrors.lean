import Mathlib.Algebra.Order.Ring.Int
import Mathlib.Data.Nat.Cast.Order.Ring
import Payments.Properties.PaymentObjects

namespace Payments
namespace Properties

open Domain

/-!
# The aggregate as a value and as objects

The service works with the aggregate as a value, whose functions return nothing
on an error.  The objects behave as the value does while the attempts of the
payment are different objects, as they are after a load from the database.
-/

def AttemptObject_of (attempt : PaymentAttempt) : AttemptObject where
  id := attempt.id
  payment_id := attempt.payment_id
  attempt_number := attempt.attempt_number
  status := attempt.status
  error := attempt.error
  gateway_response := attempt.gateway_response
  correlation_id := attempt.correlation_id
  created_at := attempt.created_at
  updated_at := attempt.updated_at

def PaymentObject_of (payment : Payment) (attempts : List Reference) : PaymentObject where
  id := payment.id
  idempotency_key := payment.idempotency_key
  money := payment.money
  description := payment.description
  metadata := payment.metadata
  webhook_url := payment.webhook_url
  correlation_id := payment.correlation_id
  status := payment.status
  created_at := payment.created_at
  processed_at := payment.processed_at
  version := payment.version
  events := payment.events
  attempts := attempts

/-- The objects show this payment, and its attempts are different objects. -/
structure Mirrors (objects : Objects) (payment : Payment) : Prop where
  shown : objects.payment = PaymentObject_of payment objects.payment.attempts
  attempts : objects.payment.attempts.map objects.attempt = payment.attempts.map AttemptObject_of
  distinct : objects.payment.attempts.Nodup
  allocated : forall self, self ∈ objects.payment.attempts -> self < objects.next

/-- The function of the value that a call of the object stands for. -/
def domain_call : PaymentCall -> Payment -> Except Error Payment
  | .mark_processing now, payment => payment.mark_processing now
  | .mark_succeeded now, payment => payment.mark_succeeded now
  | .mark_failed now reason, payment => payment.mark_failed now reason
  | .begin_attempt attempt_id correlation_id now, payment =>
      (payment.begin_attempt attempt_id correlation_id now).map Prod.fst
  | .succeed_attempt now result, payment => (payment.succeed_attempt now result).map Prod.fst
  | .fail_attempt now error, payment => (payment.fail_attempt now error).map Prod.fst
  | .hydrate_attempts _, payment => .ok payment
  | .pull_events, payment => .ok payment.pull_events.2

/-- The outcomes agree: both raise the same error, or the results mirror each other. -/
def SameOutcome (objects : Objects) (outcome : Except Error Returned × Objects) : Except Error Payment -> Prop
  | .ok after => (Exists fun answer => outcome.1 = .ok answer) ∧ Mirrors outcome.2 after
  | .error error => outcome = (.error error, objects)

variable {objects : Objects} {payment : Payment}

theorem mirrored_mark (mirrors : Mirrors objects payment) {target : PaymentStatus} {time : Option Datetime}
    {event : DomainEvent} {marked : Except Error Payment}
    (same : marked = if target ∈ Payment.VALID_TRANSITIONS payment.status then
        .ok { payment with
          status := target
          processed_at := time.orElse (fun _ => payment.processed_at)
          version := payment.version + 1
          events := payment.events ++ [event] }
      else .error (.invalidStateTransition payment.status.value target.value)) :
    SameOutcome objects (mark_outcome objects target time event) marked := by
  have status : objects.payment.status = payment.status := congrArg PaymentObject.status mirrors.shown
  rw [same, mark_outcome, status]
  by_cases valid : target ∈ Payment.VALID_TRANSITIONS payment.status
  · rw [if_pos valid, if_pos valid]
    refine ⟨⟨_, rfl⟩, ?_, mirrors.attempts, mirrors.distinct, mirrors.allocated⟩
    exact congrArg (fun shown : PaymentObject => marked_payment shown target time event) mirrors.shown
  · rw [if_neg valid, if_neg valid]
    rfl

/-- The value takes the same branches. -/
theorem mark_eq {target : PaymentStatus} {rest : Payment -> Except Error Payment} :
    (payment.transition target >>= rest) = if target ∈ Payment.VALID_TRANSITIONS payment.status then
      rest { payment with status := target }
    else .error (.invalidStateTransition payment.status.value target.value) := by
  rw [Payment.transition]
  split <;> rfl

theorem attempt_eq {attempt : PaymentAttempt} {target : PaymentAttemptStatus}
    {rest : PaymentAttempt -> Except Error PaymentAttempt} :
    (attempt.transition target >>= rest) = if target ∈ PaymentAttempt.VALID_TRANSITIONS attempt.status then
      rest { attempt with status := target }
    else .error (.invalidStateTransition attempt.status.value target.value) := by
  rw [PaymentAttempt.transition]
  split <;> rfl

theorem foldl_max_cast (start : Nat) (rest : List Nat) :
    (rest.map (fun number : Nat => (number : Int))).foldl max (start : Int) =
      ((max start (rest.foldr max 0) : Nat) : Int) := by
  induction rest generalizing start with
  | nil => simp
  | cons next rest inductionHypothesis =>
      rw [List.map_cons, List.foldl_cons, ← Nat.cast_max, inductionHypothesis, List.foldr_cons, Nat.max_assoc]

/-- The number of the next attempt. -/
theorem largest_eq (mirrors : Mirrors objects payment) :
    PaymentObject.largest (objects.payment.attempts.map (fun self => (objects.attempt self).attempt_number)) + 1 =
      (payment.next_attempt_number : Int) := by
  have numbers := congrArg (List.map AttemptObject.attempt_number) mirrors.attempts
  rw [List.map_map, List.map_map] at numbers
  have shown : objects.payment.attempts.map (fun self => (objects.attempt self).attempt_number) =
      (payment.attempts.map PaymentAttempt.attempt_number).map (fun number : Nat => (number : Int)) := by
    rw [List.map_map]
    exact numbers
  rw [shown, Payment.next_attempt_number]
  cases payment.attempts.map PaymentAttempt.attempt_number with
  | nil => rfl
  | cons first rest =>
      rw [List.map_cons, PaymentObject.largest, foldl_max_cast, List.foldr_cons]
      rfl

theorem mirrored_begin (mirrors : Mirrors objects payment) (attempt_id : UUID) (correlation_id : Option String)
    (now : Datetime) :
    SameOutcome objects ((PaymentCall.begin_attempt attempt_id correlation_id now).perform.call objects)
      (domain_call (.begin_attempt attempt_id correlation_id now) payment) := by
  have status : objects.payment.status = payment.status := congrArg PaymentObject.status mirrors.shown
  by_cases processing : payment.status = .PROCESSING
  · rw [PaymentCall.perform, call_bind_ok (call_begin_attempt (status.trans processing))]
    have begun : domain_call (.begin_attempt attempt_id correlation_id now) payment =
        .ok { payment with
          attempts := payment.attempts ++ [{ PaymentAttempt.create attempt_id payment.id payment.next_attempt_number
            correlation_id now with status := .PROCESSING }] } := by
      rw [domain_call, Payment.begin_attempt, Payment.require_processing, if_pos processing]
      rfl
    rw [begun]
    have unused : objects.next ∉ objects.payment.attempts := fun listed => absurd (mirrors.allocated _ listed) (lt_irrefl _)
    refine ⟨⟨_, rfl⟩, ?_, ?_, ?_, ?_⟩
    · exact congrArg (fun shown : PaymentObject => { shown with attempts := objects.payment.attempts ++ [objects.next] })
        mirrors.shown
    · have new : (set_attempt objects.next (begun_attempt objects attempt_id correlation_id now) objects).attempt
          objects.next = begun_attempt objects attempt_id correlation_id now := set_attempt_self _ _ _
      have old : objects.payment.attempts.map
          (set_attempt objects.next (begun_attempt objects attempt_id correlation_id now) objects).attempt =
            objects.payment.attempts.map objects.attempt :=
        List.map_congr_left (fun self listed => if_neg (fun same : self = objects.next => unused (same ▸ listed)))
      have id : objects.payment.id = payment.id := congrArg PaymentObject.id mirrors.shown
      change (objects.payment.attempts ++ [objects.next]).map
        (set_attempt objects.next (begun_attempt objects attempt_id correlation_id now) objects).attempt = _
      rw [List.map_append, old, mirrors.attempts, List.map_singleton, new, begun_attempt, largest_eq mirrors, id,
        List.map_append]
      rfl
    · exact List.nodup_append.mpr ⟨mirrors.distinct, List.nodup_cons.mpr ⟨List.not_mem_nil, List.nodup_nil⟩,
        fun self listed other new same => unused (List.mem_singleton.mp new ▸ same ▸ listed)⟩
    · intro self listed
      rcases List.mem_append.mp listed with before | new
      · exact Nat.lt_succ_of_lt (mirrors.allocated self before)
      · cases List.mem_singleton.mp new
        exact Nat.lt_succ_self _
  · rw [call_begin_refused (fun required => processing (status.symm.trans required))]
    have refused : domain_call (.begin_attempt attempt_id correlation_id now) payment =
        .error (.invalidStateTransition payment.status.value "begin_attempt") := by
      rw [domain_call, Payment.begin_attempt, Payment.require_processing, if_neg processing]
      rfl
    rw [refused, status]
    rfl

/-- The last attempts of both are the same attempt. -/
theorem Mirrors.last (mirrors : Mirrors objects payment) :
    (objects.payment.attempts = [] ∧ payment.attempts = []) ∨
      Exists fun earlier => Exists fun self => Exists fun before => Exists fun attempt =>
        objects.payment.attempts = earlier ++ [self] ∧ payment.attempts = before ++ [attempt] ∧
          earlier.map objects.attempt = before.map AttemptObject_of ∧
          objects.attempt self = AttemptObject_of attempt ∧ self ∉ earlier := by
  have same := mirrors.attempts
  have distinct := mirrors.distinct
  rcases List.eq_nil_or_concat objects.payment.attempts with none | ⟨earlier, self, listed⟩
  · rw [none] at same
    exact .inl ⟨none, List.map_eq_nil_iff.mp same.symm⟩
  · rcases List.eq_nil_or_concat payment.attempts with none | ⟨before, attempt, shown⟩
    · rw [none, List.map_nil, List.map_eq_nil_iff] at same
      exact .inl ⟨same, none⟩
    · rw [List.concat_eq_append] at listed shown
      rw [listed, shown, List.map_append, List.map_append, List.map_singleton, List.map_singleton] at same
      rcases List.append_inj' same rfl with ⟨rest, current⟩
      rw [listed, List.nodup_append] at distinct
      exact .inr ⟨earlier, self, before, attempt, listed, shown, rest, List.singleton_inj.mp current,
        fun member => distinct.2.2 self member self (List.mem_singleton_self self) rfl⟩

/-- The calls that end the current attempt. -/
theorem mirrored_end (mirrors : Mirrors objects payment) {op : String} {target : PaymentAttemptStatus}
    {ended : AttemptObject -> AttemptObject} {method : PaymentAttempt -> Except Error PaymentAttempt}
    {finish : PaymentAttempt -> PaymentAttempt}
    (does : forall attempt, method attempt = if target ∈ PaymentAttempt.VALID_TRANSITIONS attempt.status then
      .ok (finish attempt) else .error (.invalidStateTransition attempt.status.value target.value))
    (same : forall attempt, ended (AttemptObject_of attempt) = AttemptObject_of (finish attempt)) :
    SameOutcome objects (end_outcome objects op target ended) (do
      payment.require_processing op
      let attempt ← payment.current_attempt
      let attempt ← method attempt
      return payment.replace_current attempt) := by
  have status : objects.payment.status = payment.status := congrArg PaymentObject.status mirrors.shown
  rw [end_outcome, status, Payment.require_processing]
  by_cases processing : payment.status = .PROCESSING
  · rw [if_pos processing, if_neg (not_not.mpr processing), Payment.current_attempt]
    rcases mirrors.last with ⟨none, empty⟩ | ⟨earlier, self, before, attempt, listed, shown, rest, current, unlisted⟩
    · rw [none, empty]
      rfl
    · have valid_iff : (objects.attempt self).status = attempt.status := congrArg AttemptObject.status current
      rw [listed, shown, List.getLast?_concat, List.getLast?_concat]
      dsimp only
      rw [valid_iff]
      by_cases valid : target ∈ PaymentAttempt.VALID_TRANSITIONS attempt.status
      · rw [if_pos valid]
        have done : method attempt = .ok (finish attempt) := (does attempt).trans (if_pos valid)
        simp only [bind, Except.bind, done]
        refine ⟨⟨_, rfl⟩, mirrors.shown, ?_, mirrors.distinct, mirrors.allocated⟩
        change objects.payment.attempts.map (set_attempt self (ended (objects.attempt self)) objects).attempt =
          (payment.attempts.dropLast ++ [finish attempt]).map AttemptObject_of
        have kept : earlier.map (set_attempt self (ended (objects.attempt self)) objects).attempt =
            earlier.map objects.attempt :=
          List.map_congr_left (fun other member => if_neg (fun same : other = self => unlisted (same ▸ member)))
        rw [listed, shown, List.dropLast_concat, List.map_append, List.map_append, kept, rest, List.map_singleton,
          List.map_singleton, set_attempt_self, current, same]
      · rw [if_neg valid]
        have failed : method attempt = .error (.invalidStateTransition attempt.status.value target.value) :=
          (does attempt).trans (if_neg valid)
        simp only [bind, Except.bind, failed]
        rfl
  · rw [if_neg processing, if_pos processing]
    rfl

/-- The payment that the value returns, without the attempt. -/
theorem ended_value {op : String} {method : PaymentAttempt -> Except Error PaymentAttempt} :
    (do
      payment.require_processing op
      let attempt ← payment.current_attempt
      let attempt ← method attempt
      return (payment.replace_current attempt, attempt) : Except Error (Payment × PaymentAttempt)).map Prod.fst = (do
        payment.require_processing op
        let attempt ← payment.current_attempt
        let attempt ← method attempt
        return payment.replace_current attempt) := by
  cases payment.require_processing op with
  | error error => rfl
  | ok _ =>
      cases payment.current_attempt with
      | error error => rfl
      | ok current =>
          simp only [bind, Except.bind]
          cases method current <;> rfl

/-- While the attempts are different objects, every call but a replacement of
the attempts does to the objects what the function of the value does. -/
theorem mirrored (mirrors : Mirrors objects payment) (call : PaymentCall)
    (kept : forall attempts, call ≠ .hydrate_attempts attempts) :
    SameOutcome objects (call.perform.call objects) (domain_call call payment) := by
  have id : objects.payment.id = payment.id := congrArg PaymentObject.id mirrors.shown
  have correlation_id : objects.payment.correlation_id = payment.correlation_id :=
    congrArg PaymentObject.correlation_id mirrors.shown
  cases call with
  | mark_processing now =>
      rw [call_mark_processing, id, correlation_id]
      exact mirrored_mark mirrors mark_eq
  | mark_succeeded now =>
      rw [call_mark_succeeded, id, correlation_id]
      exact mirrored_mark mirrors mark_eq
  | mark_failed now reason =>
      rw [call_mark_failed, id, correlation_id]
      exact mirrored_mark mirrors mark_eq
  | begin_attempt attempt_id correlation_id now => exact mirrored_begin mirrors attempt_id correlation_id now
  | succeed_attempt now result =>
      rw [call_succeed_attempt]
      have agrees := @mirrored_end objects payment mirrors "succeed_attempt" _ (fun attempt =>
        { attempt with status := .SUCCEEDED, gateway_response := result.raw, error := none, updated_at := now })
        (fun attempt => attempt.succeed now result) _ (fun attempt => attempt_eq) (fun attempt => rfl)
      rw [domain_call, Payment.succeed_attempt, ended_value]
      exact agrees
  | fail_attempt now error =>
      rw [call_fail_attempt]
      have agrees := @mirrored_end objects payment mirrors "fail_attempt" _ (fun attempt =>
        { attempt with status := .FAILED, error := error, updated_at := now })
        (fun attempt => attempt.fail now error) _ (fun attempt => attempt_eq) (fun attempt => rfl)
      rw [domain_call, Payment.fail_attempt, ended_value]
      exact agrees
  | hydrate_attempts attempts => exact absurd rfl (kept attempts)
  | pull_events =>
      refine ⟨⟨_, rfl⟩, ?_, mirrors.attempts, mirrors.distinct, mirrors.allocated⟩
      exact congrArg (fun shown : PaymentObject => { shown with events := [] }) mirrors.shown

/-- A created payment has no attempts yet. -/
theorem mirrored_create (id : UUID) (idempotency_key : IdempotencyKey) (money : Money) (description : Option String)
    (metadata : Json) (webhook_url : Text) (correlation_id : Option String) (created_at : Datetime)
    (attempt : Reference -> AttemptObject) (next : Reference) :
    Mirrors ⟨PaymentObject.create id idempotency_key money description metadata webhook_url correlation_id created_at,
        attempt, next⟩
      (Payment.create id idempotency_key money description metadata webhook_url correlation_id created_at) where
  shown := rfl
  attempts := rfl
  distinct := List.nodup_nil
  allocated := fun _ listed => nomatch listed

/-- Attempts that a load has made, each an object of its own, are shown too. -/
theorem mirrored_hydrate (mirrors : Mirrors objects payment) {loaded : List Reference}
    {attempts : List PaymentAttempt} (distinct : loaded.Nodup) (allocated : forall self, self ∈ loaded -> self < objects.next)
    (shown : loaded.map objects.attempt = attempts.map AttemptObject_of) :
    Mirrors ((PaymentCall.hydrate_attempts loaded).perform.call objects).2 (payment.hydrate_attempts attempts) where
  shown := congrArg (fun shown : PaymentObject => { shown with attempts := loaded }) mirrors.shown
  attempts := shown
  distinct := distinct
  allocated := allocated

/-- The value after the calls, the last one first: an error leaves it as it
was, and attempts that are loaded are objects of their own. -/
inductive ValueAfter (start : Objects) (created : Payment) : List PaymentCall -> Payment -> Prop where
  | refl : ValueAfter start created [] created
  | returned {calls : List PaymentCall} {payment after : Payment} {call : PaymentCall}
      (earlier : ValueAfter start created calls payment) (kept : forall attempts, call ≠ .hydrate_attempts attempts)
      (value : domain_call call payment = .ok after) : ValueAfter start created (call :: calls) after
  | raised {calls : List PaymentCall} {payment : Payment} {call : PaymentCall} {error : Error}
      (earlier : ValueAfter start created calls payment) (kept : forall attempts, call ≠ .hydrate_attempts attempts)
      (refused : domain_call call payment = .error error) : ValueAfter start created (call :: calls) payment
  | hydrated {calls : List PaymentCall} {payment : Payment} {loaded : List Reference} {attempts : List PaymentAttempt}
      (earlier : ValueAfter start created calls payment) (distinct : loaded.Nodup)
      (allocated : forall self, self ∈ loaded -> self < (objects_after start calls).next)
      (shown : loaded.map (objects_after start calls).attempt = attempts.map AttemptObject_of) :
      ValueAfter start created (.hydrate_attempts loaded :: calls) (payment.hydrate_attempts attempts)

theorem ValueAfter.mirrors {start : Objects} {created : Payment} {calls : List PaymentCall}
    (after : ValueAfter start created calls payment) (mirrors : Mirrors start created) :
    Mirrors (objects_after start calls) payment := by
  induction after with
  | refl => exact mirrors
  | @returned calls _ _ call _ kept value inductionHypothesis =>
      have same := mirrored inductionHypothesis call kept
      rw [value] at same
      exact same.2
  | @raised calls _ call error _ kept refused inductionHypothesis =>
      have same := mirrored inductionHypothesis call kept
      rw [refused] at same
      have stays : objects_after start (call :: calls) = objects_after start calls := congrArg Prod.snd same
      rw [stays]
      exact inductionHypothesis
  | hydrated _ distinct allocated shown inductionHypothesis =>
      exact mirrored_hydrate inductionHypothesis distinct allocated shown

/-- Whatever is called on a created payment, in whatever order and with whatever
attempts, its history is consistent; and as long as the attempts it has been
given are different objects, the value has the same history. -/
theorem aggregate_history (id : UUID) (idempotency_key : IdempotencyKey) (money : Money) (description : Option String)
    (metadata : Json) (webhook_url : Text) (correlation_id : Option String) (created_at : Datetime)
    (attempt : Reference -> AttemptObject) (next : Reference) (calls : List PaymentCall) :
    let start : Objects := ⟨PaymentObject.create id idempotency_key money description metadata webhook_url
      correlation_id created_at, attempt, next⟩
    AggregateHistory
      (.PaymentCreated id created_at correlation_id money.amount.str money.currency.value description metadata
        webhook_url idempotency_key.value created_at)
      (call_steps start calls) (objects_after start calls) ∧
    forall payment, ValueAfter start (Payment.create id idempotency_key money description metadata webhook_url
        correlation_id created_at) calls payment ->
      Mirrors (objects_after start calls) payment ∧
        forall call, (forall attempts, call ≠ .hydrate_attempts attempts) ->
          SameOutcome (objects_after start calls) (call.perform.call (objects_after start calls))
            (domain_call call payment) := by
  intro start
  have created : Mirrors start (Payment.create id idempotency_key money description metadata webhook_url correlation_id
      created_at) := mirrored_create id idempotency_key money description metadata webhook_url correlation_id created_at
    attempt next
  refine ⟨?_, fun payment after => ⟨after.mirrors created, mirrored (after.mirrors created)⟩⟩
  have tracks : Tracked (.PaymentCreated id created_at correlation_id money.amount.str money.currency.value
      description metadata webhook_url idempotency_key.value created_at) (call_steps start calls)
      (objects_after start calls) := tracked ⟨rfl, rfl, .pending rfl rfl⟩ calls
  rcases tracks.life.stages with ⟨stages, processed_at, terminal_event⟩
  refine ⟨tracks.version, tracks.events, mark_events_length calls, stages, processed_at, terminal_event, ?_, ?_, ?_⟩
  · intro step listed attempt_id correlation_id now self called answered
    have done := call_steps_performed listed
    rcases step with ⟨before, call, answer, after⟩
    dsimp only at called answered done ⊢
    subst called answered
    cases done with
    | begun _ _ _ processing =>
        refine ⟨rfl, fun other other_listed => ?_⟩
        have below := le_largest (List.mem_map_of_mem (f := fun self => (before.attempt self).attempt_number) other_listed)
        have made : (set_attempt before.next (begun_attempt before attempt_id correlation_id now) before).attempt
            before.next = begun_attempt before attempt_id correlation_id now := set_attempt_self _ _ _
        change (before.attempt other).attempt_number <
          ((set_attempt before.next (begun_attempt before attempt_id correlation_id now) before).attempt
            before.next).attempt_number
        rw [made]
        exact Int.lt_add_one_of_le below
    | ended _ _ attempt processing last current ends => cases ends
  · intro step listed idle
    have done := call_steps_performed listed
    rcases step with ⟨before, call, answer, after⟩
    dsimp only at idle done ⊢
    cases done with
    | begun attempt_id correlation_id now processing => exact absurd processing idle
    | ended _ self attempt processing last current ends => exact absurd processing idle
    | _ => rfl
  · intro step listed error failed
    have done := call_steps_performed listed
    rcases step with ⟨before, call, answer, after⟩
    dsimp only at failed done ⊢
    subst failed
    cases done with
    | raised _ _ => rfl

/-- The calls of a charge that succeeds, the last one first. -/
def successful_calls : List PaymentCall :=
  [.mark_succeeded 4, .succeed_attempt 3 ⟨true, some "reference", none, none⟩, .begin_attempt 2 none 2,
    .mark_processing 1]

/-- A payment is created and charged, and the value comes along. -/
theorem charged_payment_history : exists start : Objects, exists created payment,
    AggregateHistory created (call_steps start successful_calls) (objects_after start successful_calls) ∧
      Mirrors (objects_after start successful_calls) payment ∧ payment.status = .SUCCEEDED ∧ payment.version = 2 ∧
      payment.events.map DomainEvent.event_type = ["PaymentCreated", "PaymentProcessingStarted", "PaymentSucceeded"] ∧
      payment.attempts.map (fun attempt => (attempt.attempt_number, attempt.status)) = [(1, .SUCCEEDED)] := by
  let unused : Reference -> AttemptObject := fun _ => AttemptObject_of (PaymentAttempt.create 0 0 0 none 0)
  rcases aggregate_history 1 ⟨"order-1", by decide +kernel⟩ ⟨.finite false 100 (-2), .EUR, rfl⟩ none (.object [])
    "https://shop" none 0 unused 0 successful_calls with ⟨history, values⟩
  exact ⟨_, _, _, history, (values _ (.returned (.returned (.returned (.returned .refl nofun rfl) nofun rfl) nofun rfl)
    nofun rfl)).1, rfl, rfl, rfl, rfl⟩

end Properties
end Payments
