import Payments.Domain.Objects

namespace Payments
namespace Properties

open Domain

/-!
# Calls of the mutable aggregate

`Performed` says once what a call may do to the objects.  Whatever holds of a
payment over a sequence of calls, accepted or rejected, is derived from it.
-/

variable {X Y : Type} {objects reached : Objects} {call : PaymentCall}

/-! ## Methods that raise -/

theorem call_bind_ok {first : Method X} {rest : X -> Method Y} {value : X}
    (done : first.call objects = (.ok value, reached)) : (first >>= rest).call objects = (rest value).call reached := by
  simp only [Method.call, ExceptT.run, bind, ExceptT.bind, ExceptT.mk, StateT.run, StateT.bind] at done ⊢
  rw [done]
  rfl

theorem call_bind_error {first : Method X} {rest : X -> Method Y} {error : Error}
    (failed : first.call objects = (.error error, reached)) :
    (first >>= rest).call objects = (.error error, reached) := by
  simp only [Method.call, ExceptT.run, bind, ExceptT.bind, ExceptT.mk, StateT.run, StateT.bind] at failed ⊢
  rw [failed]
  rfl

/-- A check in front of a method raises before anything is assigned. -/
theorem call_guarded {condition : Prop} [Decidable condition] {error : Error} {rest : Method X} :
    (do if condition then throw error
        rest : Method X).call objects = if condition then (.error error, objects) else rest.call objects := by
  by_cases holds : condition
  · rw [if_pos holds, if_pos holds]
    rfl
  · rw [if_neg holds, if_neg holds]

theorem call_transition (target : PaymentStatus) : (PaymentObject.transition target).call objects =
    if target ∉ Payment.VALID_TRANSITIONS objects.payment.status then
      (.error (.invalidStateTransition objects.payment.status.value target.value), objects)
    else (.ok (), { objects with payment := { objects.payment with status := target } }) :=
  call_guarded

theorem call_attempt_transition (self : Reference) (target : PaymentAttemptStatus) :
    (AttemptObject.transition self target).call objects =
      if target ∉ PaymentAttempt.VALID_TRANSITIONS (objects.attempt self).status then
        (.error (.invalidStateTransition (objects.attempt self).status.value target.value), objects)
      else (assign_attempt self (fun attempt => { attempt with status := target })).call objects :=
  call_guarded

theorem call_require_processing (op : String) : (PaymentObject.require_processing op).call objects =
    if objects.payment.status ≠ .PROCESSING then
      (.error (.invalidStateTransition objects.payment.status.value op), objects)
    else (.ok (), objects) := by
  have read : (PaymentObject.require_processing op).call objects =
      (if objects.payment.status ≠ .PROCESSING then throw (.invalidStateTransition objects.payment.status.value op)
        else pure () : Method Unit).call objects := rfl
  rw [read]
  by_cases processing : objects.payment.status ≠ .PROCESSING
  · rw [if_pos processing, if_pos processing]
    rfl
  · rw [if_neg processing, if_neg processing]
    rfl

theorem call_current_attempt : PaymentObject.current_attempt.call objects =
    match objects.payment.attempts.getLast? with
    | none => (.error (.invalidStateTransition objects.payment.status.value "attempt"), objects)
    | some attempt => (.ok attempt, objects) := by
  have read : PaymentObject.current_attempt.call objects =
      (match objects.payment.attempts.getLast? with
        | none => throw (.invalidStateTransition objects.payment.status.value "attempt")
        | some attempt => pure attempt : Method Reference).call objects := rfl
  rw [read]
  cases objects.payment.attempts.getLast? <;> rfl

/-! ## What one call does -/

/-- The status a call asks for, and the time it sets. -/
def mark_of : PaymentCall -> Option (PaymentStatus × Option Datetime)
  | .mark_processing _ => some (.PROCESSING, none)
  | .mark_succeeded now => some (.SUCCEEDED, some now)
  | .mark_failed now _ => some (.FAILED, some now)
  | _ => none

/-- The event of a call that marks a payment. -/
def event_of (payment : PaymentObject) : PaymentCall -> Option DomainEvent
  | .mark_processing now => some (.PaymentProcessingStarted payment.id now payment.correlation_id)
  | .mark_succeeded now => some (.PaymentSucceeded payment.id now payment.correlation_id now)
  | .mark_failed now reason => some (.PaymentFailed payment.id now payment.correlation_id reason now)
  | _ => none

def set_attempt (self : Reference) (attempt : AttemptObject) (objects : Objects) : Objects :=
  { objects with attempt := fun other => if other = self then attempt else objects.attempt other }

@[simp] theorem set_attempt_self (self : Reference) (attempt : AttemptObject) (objects : Objects) :
    (set_attempt self attempt objects).attempt self = attempt := if_pos rfl

@[simp] theorem set_attempt_again (self : Reference) (attempt other : AttemptObject) (objects : Objects) :
    set_attempt self other (set_attempt self attempt objects) = set_attempt self other objects := by
  rw [set_attempt, set_attempt, set_attempt]
  congr 1
  funext reference
  dsimp only
  split <;> rfl

theorem call_assign_attempt (self : Reference) (change : AttemptObject -> AttemptObject) (objects : Objects) :
    (assign_attempt self change).call objects = (.ok (), set_attempt self (change (objects.attempt self)) objects) :=
  rfl

/-- Assignments to one attempt, one after the other. -/
theorem call_assign_then (self : Reference) (change : AttemptObject -> AttemptObject) (rest : Method Unit)
    (objects : Objects) : (do assign_attempt self change; rest : Method Unit).call objects =
      rest.call (set_attempt self (change (objects.attempt self)) objects) :=
  call_bind_ok (call_assign_attempt self change objects)

/-- What the last attempt becomes, if the call ends it. -/
def ended_attempt (attempt : AttemptObject) : PaymentCall -> Option AttemptObject
  | .succeed_attempt now result =>
      some { attempt with status := .SUCCEEDED, gateway_response := result.raw, error := none, updated_at := now }
  | .fail_attempt now error => some { attempt with status := .FAILED, error := error, updated_at := now }
  | _ => none

/-- The attempt that `begin_attempt` makes, already started. -/
def begun_attempt (objects : Objects) (attempt_id : UUID) (correlation_id : Option String) (now : Datetime) :
    AttemptObject where
  id := attempt_id
  payment_id := objects.payment.id
  attempt_number := PaymentObject.largest
    (objects.payment.attempts.map (fun self => (objects.attempt self).attempt_number)) + 1
  status := .PROCESSING
  error := none
  gateway_response := none
  correlation_id := correlation_id
  created_at := now
  updated_at := now

def marked_payment (payment : PaymentObject) (target : PaymentStatus) (time : Option Datetime) (event : DomainEvent) :
    PaymentObject :=
  { payment with
    status := target
    processed_at := time.orElse (fun _ => payment.processed_at)
    version := payment.version + 1
    events := payment.events ++ [event] }

/-- A call either raises and changes nothing, or does what its name says. -/
inductive Performed (objects : Objects) : PaymentCall -> Except Error Returned -> Objects -> Prop where
  | raised (call : PaymentCall) (error : Error) : Performed objects call (.error error) objects
  | marked (call : PaymentCall) (target : PaymentStatus) (time : Option Datetime) (event : DomainEvent)
      (asks : mark_of call = some (target, time)) (tells : event_of objects.payment call = some event)
      (valid : target ∈ Payment.VALID_TRANSITIONS objects.payment.status) :
      Performed objects call (.ok .nothing)
        { objects with payment := marked_payment objects.payment target time event }
  | begun (attempt_id : UUID) (correlation_id : Option String) (now : Datetime)
      (processing : objects.payment.status = .PROCESSING) :
      Performed objects (.begin_attempt attempt_id correlation_id now) (.ok (.attempt objects.next))
        { set_attempt objects.next (begun_attempt objects attempt_id correlation_id now) objects with
          payment := { objects.payment with attempts := objects.payment.attempts ++ [objects.next] }
          next := objects.next + 1 }
  | ended (call : PaymentCall) (self : Reference) (attempt : AttemptObject)
      (processing : objects.payment.status = .PROCESSING) (last : objects.payment.attempts.getLast? = some self)
      (current : (objects.attempt self).status = .PROCESSING)
      (ends : ended_attempt (objects.attempt self) call = some attempt) :
      Performed objects call (.ok (.attempt self)) (set_attempt self attempt objects)
  | hydrated (attempts : List Reference) :
      Performed objects (.hydrate_attempts attempts) (.ok .nothing)
        { objects with payment := { objects.payment with attempts := attempts } }
  | pulled : Performed objects .pull_events (.ok (.events objects.payment.events))
      { objects with payment := { objects.payment with events := [] } }

/-- A method that first changes the status. -/
theorem call_mark {method rest : Method Unit} {target : PaymentStatus} {time : Option Datetime} {event : DomainEvent}
    (opens : method = (do PaymentObject.transition target; rest))
    (performs : call.perform = (do method; return .nothing))
    (assigns : rest.call { objects with payment := { objects.payment with status := target } } =
      (.ok (), { objects with payment := marked_payment objects.payment target time event })) :
    call.perform.call objects =
      if target ∈ Payment.VALID_TRANSITIONS objects.payment.status then
        (.ok .nothing, { objects with payment := marked_payment objects.payment target time event })
      else (.error (.invalidStateTransition objects.payment.status.value target.value), objects) := by
  rw [performs, opens]
  have transition := @call_transition objects target
  by_cases valid : target ∈ Payment.VALID_TRANSITIONS objects.payment.status
  · rw [if_neg (not_not.mpr valid)] at transition
    rw [if_pos valid]
    exact call_bind_ok ((call_bind_ok transition).trans assigns)
  · rw [if_pos valid] at transition
    rw [if_neg valid]
    exact call_bind_error (call_bind_error transition)

/-- The outcome of a mark of a payment. -/
def mark_outcome (objects : Objects) (target : PaymentStatus) (time : Option Datetime) (event : DomainEvent) :
    Except Error Returned × Objects :=
  if target ∈ Payment.VALID_TRANSITIONS objects.payment.status then
    (.ok .nothing, { objects with payment := marked_payment objects.payment target time event })
  else (.error (.invalidStateTransition objects.payment.status.value target.value), objects)

theorem call_mark_processing (now : Datetime) : (PaymentCall.mark_processing now).perform.call objects =
    mark_outcome objects .PROCESSING none
      (.PaymentProcessingStarted objects.payment.id now objects.payment.correlation_id) :=
  call_mark rfl rfl rfl

theorem call_mark_succeeded (now : Datetime) : (PaymentCall.mark_succeeded now).perform.call objects =
    mark_outcome objects .SUCCEEDED (some now)
      (.PaymentSucceeded objects.payment.id now objects.payment.correlation_id now) :=
  call_mark rfl rfl rfl

theorem call_mark_failed (now : Datetime) (reason : Option String) :
    (PaymentCall.mark_failed now reason).perform.call objects =
      mark_outcome objects .FAILED (some now)
        (.PaymentFailed objects.payment.id now objects.payment.correlation_id reason now) :=
  call_mark rfl rfl rfl

/-- What a call that ends the current attempt comes to. -/
def end_outcome (objects : Objects) (op : String) (target : PaymentAttemptStatus)
    (ended : AttemptObject -> AttemptObject) : Except Error Returned × Objects :=
  if objects.payment.status ≠ .PROCESSING then
    (.error (.invalidStateTransition objects.payment.status.value op), objects)
  else
    match objects.payment.attempts.getLast? with
    | none => (.error (.invalidStateTransition objects.payment.status.value "attempt"), objects)
    | some self =>
        if target ∈ PaymentAttempt.VALID_TRANSITIONS (objects.attempt self).status then
          (.ok (.attempt self), set_attempt self (ended (objects.attempt self)) objects)
        else (.error (.invalidStateTransition (objects.attempt self).status.value target.value), objects)

/-- A method that ends the current attempt. -/
theorem call_end {op : String} {ending rest : Reference -> Method Unit} {target : PaymentAttemptStatus}
    {ended : AttemptObject -> AttemptObject}
    (performs : call.perform = (do
      let attempt ← (do
        PaymentObject.require_processing op
        let attempt ← PaymentObject.current_attempt
        ending attempt
        return attempt : Method Reference)
      return .attempt attempt))
    (opens : forall self, ending self = (do AttemptObject.transition self target; rest self))
    (assigns : forall self, (do
        assign_attempt self (fun attempt => { attempt with status := target })
        rest self : Method Unit).call objects = (.ok (), set_attempt self (ended (objects.attempt self)) objects)) :
    call.perform.call objects = end_outcome objects op target ended := by
  rw [performs, end_outcome]
  have processing := @call_require_processing objects op
  by_cases required : objects.payment.status = .PROCESSING
  · rw [if_neg (not_not.mpr required)] at processing ⊢
    have current := @call_current_attempt objects
    cases last : objects.payment.attempts.getLast? with
    | none =>
        rw [last] at current
        exact call_bind_error ((call_bind_ok processing).trans (call_bind_error current))
    | some self =>
        rw [last] at current
        have transition := @call_attempt_transition objects self target
        by_cases valid : target ∈ PaymentAttempt.VALID_TRANSITIONS (objects.attempt self).status
        · rw [if_neg (not_not.mpr valid)] at transition
          have done : (ending self).call objects =
              (.ok (), set_attempt self (ended (objects.attempt self)) objects) := by
            rw [opens, ← assigns self]
            exact (call_bind_ok (transition.trans rfl)).trans (call_bind_ok rfl).symm
          simp only [valid, if_true]
          exact call_bind_ok ((call_bind_ok processing).trans ((call_bind_ok current).trans (call_bind_ok done)))
        · rw [if_pos valid] at transition
          have failed := @call_bind_error Unit Unit objects objects (AttemptObject.transition self target)
            (fun _ => rest self) _ transition
          rw [← opens] at failed
          simp only [valid, if_false]
          exact call_bind_error ((call_bind_ok processing).trans
            ((call_bind_ok current).trans (call_bind_error failed)))
  · rw [if_pos required] at processing ⊢
    exact call_bind_error (call_bind_error processing)

theorem call_succeed_attempt (now : Datetime) (result : GatewayResult) :
    (PaymentCall.succeed_attempt now result).perform.call objects =
      end_outcome objects "succeed_attempt" .SUCCEEDED (fun attempt =>
        { attempt with status := .SUCCEEDED, gateway_response := result.raw, error := none, updated_at := now }) := by
  refine call_end rfl (fun self => rfl) (fun self => ?_)
  simp only [call_assign_then, call_assign_attempt, set_attempt_self, set_attempt_again]

theorem call_fail_attempt (now : Datetime) (error : Option String) :
    (PaymentCall.fail_attempt now error).perform.call objects =
      end_outcome objects "fail_attempt" .FAILED (fun attempt =>
        { attempt with status := .FAILED, error := error, updated_at := now }) := by
  refine call_end rfl (fun self => rfl) (fun self => ?_)
  simp only [call_assign_then, call_assign_attempt, set_attempt_self, set_attempt_again]

/-- A new attempt can always be started. -/
theorem call_start {self : Reference} {now : Datetime} (created : (objects.attempt self).status = .CREATED) :
    (AttemptObject.start self now).call objects =
      (.ok (), set_attempt self { objects.attempt self with status := .PROCESSING, updated_at := now } objects) := by
  have transition := @call_attempt_transition objects self .PROCESSING
  rw [created, if_neg (by decide), call_assign_attempt] at transition
  rw [AttemptObject.start, call_bind_ok transition, call_assign_attempt, set_attempt_self, set_attempt_again]

theorem call_begin_attempt {attempt_id : UUID} {correlation_id : Option String} {now : Datetime}
    (required : objects.payment.status = .PROCESSING) :
    (PaymentObject.begin_attempt attempt_id correlation_id now).call objects =
      (.ok objects.next, { set_attempt objects.next (begun_attempt objects attempt_id correlation_id now) objects with
          payment := { objects.payment with attempts := objects.payment.attempts ++ [objects.next] }
          next := objects.next + 1 }) := by
  have processing := @call_require_processing objects "begin_attempt"
  rw [if_neg (not_not.mpr required)] at processing
  let number := PaymentObject.largest
    (objects.payment.attempts.map (fun self => (objects.attempt self).attempt_number)) + 1
  let created : Objects := set_attempt objects.next
    { begun_attempt objects attempt_id correlation_id now with status := .CREATED }
    { objects with next := objects.next + 1 }
  have creates : (AttemptObject.create attempt_id objects.payment.id number correlation_id now).call objects =
      (.ok objects.next, created) := rfl
  have new : (created.attempt objects.next).status = .CREATED := by
    simp only [created, set_attempt_self]
  rw [PaymentObject.begin_attempt, call_bind_ok processing]
  refine (call_bind_ok (show (get : Method Objects).call objects = (.ok objects, objects) from rfl)).trans ?_
  refine (call_bind_ok creates).trans ((call_bind_ok (call_start new)).trans ?_)
  simp only [created, set_attempt_self, set_attempt_again]
  rfl

theorem call_begin_refused {attempt_id : UUID} {correlation_id : Option String} {now : Datetime}
    (idle : objects.payment.status ≠ .PROCESSING) :
    (PaymentCall.begin_attempt attempt_id correlation_id now).perform.call objects =
      (.error (.invalidStateTransition objects.payment.status.value "begin_attempt"), objects) := by
  have processing := @call_require_processing objects "begin_attempt"
  rw [if_pos idle] at processing
  exact call_bind_error (call_bind_error processing)

theorem performed_mark {target : PaymentStatus} {time : Option Datetime} {event : DomainEvent}
    (outcome : call.perform.call objects = mark_outcome objects target time event)
    (asks : mark_of call = some (target, time)) (tells : event_of objects.payment call = some event) :
    Performed objects call (call.perform.call objects).1 (call.perform.call objects).2 := by
  rw [outcome, mark_outcome]
  split
  · next valid => exact .marked call target time event asks tells valid
  · exact .raised call _

theorem performed_end {op : String} {target : PaymentAttemptStatus} {ended : AttemptObject -> AttemptObject}
    (outcome : call.perform.call objects = end_outcome objects op target ended)
    (ends : forall attempt, ended_attempt attempt call = some (ended attempt))
    (final : target = .SUCCEEDED ∨ target = .FAILED) :
    Performed objects call (call.perform.call objects).1 (call.perform.call objects).2 := by
  rw [outcome, end_outcome]
  split
  · exact .raised call _
  · next required =>
      cases last : objects.payment.attempts.getLast? with
      | none => exact .raised call _
      | some self =>
          dsimp only
          split
          · next valid =>
              refine .ended call self _ (not_not.mp required) last ?_ (ends _)
              generalize (objects.attempt self).status = status at valid
              rcases final with rfl | rfl <;> cases status <;> first | rfl | exact absurd valid (by decide)
          · exact .raised call _

theorem performed (call : PaymentCall) (objects : Objects) :
    Performed objects call (call.perform.call objects).1 (call.perform.call objects).2 := by
  cases call with
  | mark_processing now => exact performed_mark (call_mark_processing now) rfl rfl
  | mark_succeeded now => exact performed_mark (call_mark_succeeded now) rfl rfl
  | mark_failed now reason => exact performed_mark (call_mark_failed now reason) rfl rfl
  | begin_attempt attempt_id correlation_id now =>
      by_cases required : objects.payment.status = .PROCESSING
      · rw [PaymentCall.perform, call_bind_ok (call_begin_attempt required)]
        exact .begun attempt_id correlation_id now required
      · rw [call_begin_refused required]
        exact .raised _ _
  | succeed_attempt now result =>
      exact performed_end (call_succeed_attempt now result) (fun attempt => rfl) (.inl rfl)
  | fail_attempt now error => exact performed_end (call_fail_attempt now error) (fun attempt => rfl) (.inr rfl)
  | hydrate_attempts attempts => exact .hydrated attempts
  | pull_events => exact .pulled

/-! ## Sequences of calls -/

/-- The step is a call of a `mark_*` method that has returned. -/
def marks_payment (step : CallStep) : Bool :=
  match step.answer with
  | .ok _ => (mark_of step.call).isSome
  | .error _ => false

/-- The events of the calls that have marked the payment, in call order. -/
def mark_events : List CallStep -> List DomainEvent
  | [] => []
  | step :: earlier =>
      mark_events earlier ++
        (if marks_payment step then (event_of step.before.payment step.call).toList else [])

/-- The events that have been pulled, in call order. -/
def pulled_events : List CallStep -> List DomainEvent
  | [] => []
  | step :: earlier =>
      pulled_events earlier ++
        (match step.answer with
          | .ok (.events events) => events
          | _ => [])

/-- The time that a terminal event shows. -/
def event_processed_at : DomainEvent -> Option Datetime
  | .PaymentSucceeded _ _ _ processed_at => some processed_at
  | .PaymentFailed _ _ _ _ processed_at => some processed_at
  | _ => none

/-- How far a payment has come, and the events of its marks. -/
inductive Life (payment : PaymentObject) : List DomainEvent -> Prop where
  | pending (status : payment.status = .PENDING) (processed_at : payment.processed_at = none) : Life payment []
  | processing (started : Datetime) (status : payment.status = .PROCESSING) (processed_at : payment.processed_at = none) :
      Life payment [.PaymentProcessingStarted payment.id started payment.correlation_id]
  | succeeded (started now : Datetime) (status : payment.status = .SUCCEEDED)
      (processed_at : payment.processed_at = some now) :
      Life payment [.PaymentProcessingStarted payment.id started payment.correlation_id,
        .PaymentSucceeded payment.id now payment.correlation_id now]
  | failed (started now : Datetime) (reason : Option String) (status : payment.status = .FAILED)
      (processed_at : payment.processed_at = some now) :
      Life payment [.PaymentProcessingStarted payment.id started payment.correlation_id,
        .PaymentFailed payment.id now payment.correlation_id reason now]

/-- The invariant of a payment over its calls. -/
structure Tracked (created : DomainEvent) (steps : List CallStep) (objects : Objects) : Prop where
  version : objects.payment.version = (steps.filter marks_payment).length
  events : pulled_events steps ++ objects.payment.events = created :: mark_events steps
  life : Life objects.payment (mark_events steps)

variable {created : DomainEvent} {steps : List CallStep} {answer : Except Error Returned} {after : Objects}

theorem mark_events_unmarked {step : CallStep} (unmarked : marks_payment step = false) :
    mark_events (step :: steps) = mark_events steps := by
  rw [mark_events, unmarked, if_neg Bool.false_ne_true, List.append_nil]

theorem Life.of_same {payment moved : PaymentObject} {marks : List DomainEvent} (life : Life payment marks)
    (status : moved.status = payment.status) (processed_at : moved.processed_at = payment.processed_at)
    (id : moved.id = payment.id) (correlation_id : moved.correlation_id = payment.correlation_id) :
    Life moved marks := by
  cases life with
  | pending pending unset => exact .pending (status.trans pending) (processed_at.trans unset)
  | processing started processing unset =>
      rw [← id, ← correlation_id]
      exact .processing started (status.trans processing) (processed_at.trans unset)
  | succeeded started now succeeded set =>
      rw [← id, ← correlation_id]
      exact .succeeded started now (status.trans succeeded) (processed_at.trans set)
  | failed started now reason failed set =>
      rw [← id, ← correlation_id]
      exact .failed started now reason (status.trans failed) (processed_at.trans set)

/-- The calls that neither mark the payment nor pull its events. -/
theorem Tracked.kept (tracked : Tracked created steps objects)
    (unmarked : marks_payment ⟨objects, call, answer, after⟩ = false)
    (unpulled : forall events, answer ≠ .ok (.events events))
    (version : after.payment.version = objects.payment.version) (events : after.payment.events = objects.payment.events)
    (life : Life after.payment (mark_events steps)) :
    Tracked created (⟨objects, call, answer, after⟩ :: steps) after := by
  have no_events : (match answer with
      | .ok (.events events) => events
      | _ => []) = [] := by
    split
    · next events => exact absurd rfl (unpulled events)
    · rfl
  refine ⟨?_, ?_, ?_⟩
  · rw [List.filter_cons_of_neg (by rw [unmarked]; exact Bool.false_ne_true), version]
    exact tracked.version
  · rw [mark_events_unmarked unmarked, pulled_events, no_events, List.append_nil, events]
    exact tracked.events
  · rw [mark_events_unmarked unmarked]
    exact life

/-- A mark moves the payment one stage on and queues its event. -/
theorem Tracked.marked (tracked : Tracked created steps objects) {target : PaymentStatus} {time : Option Datetime}
    {event : DomainEvent} (asks : mark_of call = some (target, time)) (tells : event_of objects.payment call = some event)
    (valid : target ∈ Payment.VALID_TRANSITIONS objects.payment.status)
    (moved : after.payment = marked_payment objects.payment target time event) :
    Tracked created (⟨objects, call, .ok .nothing, after⟩ :: steps) after := by
  have marks : marks_payment ⟨objects, call, .ok .nothing, after⟩ = true := by
    rw [marks_payment]
    exact Option.isSome_iff_exists.mpr ⟨_, asks⟩
  have added : mark_events (⟨objects, call, .ok .nothing, after⟩ :: steps) = mark_events steps ++ [event] := by
    rw [mark_events, if_pos marks, tells]
    rfl
  refine ⟨?_, ?_, ?_⟩
  · rw [List.filter_cons_of_pos marks, List.length_cons, ← tracked.version, moved]
    rfl
  · have queued : after.payment.events = objects.payment.events ++ [event] := by
      rw [moved]
      rfl
    rw [added, pulled_events, List.append_nil, queued, ← List.append_assoc, tracked.events, List.cons_append]
  · rw [added, moved]
    have life := tracked.life
    generalize mark_events steps = earlier at life
    cases life with
    | pending pending unset =>
        rw [pending] at valid
        cases List.mem_singleton.mp valid
        cases call with
        | mark_processing now =>
            cases asks
            cases tells
            exact .processing now rfl unset
        | _ => cases asks
    | processing started processing unset =>
        cases call with
        | mark_succeeded now =>
            cases asks
            cases tells
            exact .succeeded started now rfl rfl
        | mark_failed now reason =>
            cases asks
            cases tells
            exact .failed started now reason rfl rfl
        | mark_processing now =>
            cases asks
            rw [processing] at valid
            exact absurd valid (by decide)
        | _ => cases asks
    | succeeded started now succeeded set =>
        rw [succeeded] at valid
        cases valid
    | failed started now reason failed set =>
        rw [failed] at valid
        cases valid

theorem Tracked.step (tracked : Tracked created steps objects) (done : Performed objects call answer after) :
    Tracked created (⟨objects, call, answer, after⟩ :: steps) after := by
  cases done with
  | raised _ error => exact tracked.kept rfl nofun rfl rfl tracked.life
  | marked _ target time event asks tells valid => exact tracked.marked asks tells valid rfl
  | begun attempt_id correlation_id now processing =>
      exact tracked.kept rfl nofun rfl rfl (tracked.life.of_same rfl rfl rfl rfl)
  | ended _ self attempt processing last current ends =>
      refine tracked.kept ?_ nofun rfl rfl tracked.life
      cases call with
      | succeed_attempt now result => rfl
      | fail_attempt now error => rfl
      | _ => cases ends
  | hydrated attempts => exact tracked.kept rfl nofun rfl rfl (tracked.life.of_same rfl rfl rfl rfl)
  | pulled =>
      refine ⟨tracked.version, ?_, ?_⟩
      · rw [mark_events_unmarked rfl, pulled_events]
        exact (List.append_nil _).trans tracked.events
      · rw [mark_events_unmarked rfl]
        exact tracked.life.of_same rfl rfl rfl rfl

theorem call_steps_performed {start : Objects} {calls : List PaymentCall} {step : CallStep}
    (listed : step ∈ call_steps start calls) : Performed step.before step.call step.answer step.after := by
  induction calls with
  | nil => cases listed
  | cons call earlier inductionHypothesis =>
      rcases List.mem_cons.mp listed with rfl | before
      · exact performed call (objects_after start earlier)
      · exact inductionHypothesis before

theorem tracked {start : Objects} (fresh : Tracked created [] start) (calls : List PaymentCall) :
    Tracked created (call_steps start calls) (objects_after start calls) := by
  induction calls with
  | nil => exact fresh
  | cons call earlier inductionHypothesis =>
      exact inductionHypothesis.step (performed call (objects_after start earlier))

/-! ## What holds after any calls -/

theorem start_le_foldl_max (start : Int) (rest : List Int) : start ≤ rest.foldl max start := by
  induction rest generalizing start with
  | nil => exact le_refl start
  | cons next rest inductionHypothesis => exact (le_max_left start next).trans (inductionHypothesis (max start next))

theorem le_foldl_max {number : Int} {rest : List Int} (start : Int) (listed : number ∈ rest) :
    number ≤ rest.foldl max start := by
  induction rest generalizing start with
  | nil => cases listed
  | cons next rest inductionHypothesis =>
      rcases List.mem_cons.mp listed with rfl | later
      · exact (le_max_right start number).trans (start_le_foldl_max _ rest)
      · exact inductionHypothesis (max start next) later

theorem le_largest {number : Int} {numbers : List Int} (listed : number ∈ numbers) :
    number ≤ PaymentObject.largest numbers := by
  cases numbers with
  | nil => cases listed
  | cons first rest =>
      rcases List.mem_cons.mp listed with rfl | later
      · exact start_le_foldl_max number rest
      · exact le_foldl_max first later

/-- A payment after its creation and any calls, accepted or rejected. -/
structure AggregateHistory (created : DomainEvent) (steps : List CallStep) (objects : Objects) : Prop where
  version : objects.payment.version = (steps.filter marks_payment).length
  /-- One event for every successful mark, in call order. -/
  events : pulled_events steps ++ objects.payment.events = created :: mark_events steps
  one_each : (mark_events steps).length = (steps.filter marks_payment).length
  stages : Exists fun started => Exists fun ended =>
    (created :: mark_events steps) <+:
        [created, .PaymentProcessingStarted objects.payment.id started objects.payment.correlation_id, ended] ∧
      (ended.event_type = "PaymentSucceeded" ∨ ended.event_type = "PaymentFailed")
  processed_at : objects.payment.processed_at.isSome = true <-> objects.payment.status.terminal = true
  terminal_event : objects.payment.processed_at = (mark_events steps).getLast?.bind event_processed_at
  numbers : forall step, step ∈ steps -> forall attempt_id correlation_id now, forall self : Reference,
    step.call = .begin_attempt attempt_id correlation_id now -> step.answer = .ok (.attempt self) ->
    step.after.payment.attempts = step.before.payment.attempts ++ [self] ∧
      forall other, other ∈ step.before.payment.attempts ->
        (step.before.attempt other).attempt_number < (step.after.attempt self).attempt_number
  still : forall step, step ∈ steps -> step.before.payment.status ≠ .PROCESSING ->
    step.after.attempt = step.before.attempt
  atomic : forall step, step ∈ steps -> forall error, step.answer = .error error -> step.after = step.before

/-- Every mark has its event. -/
theorem mark_events_length {start : Objects} (calls : List PaymentCall) :
    (mark_events (call_steps start calls)).length = ((call_steps start calls).filter marks_payment).length := by
  induction calls with
  | nil => rfl
  | cons call earlier inductionHypothesis =>
      rw [call_steps]
      generalize marked : marks_payment (CallStep.mk (objects_after start earlier) call
        (call.perform.call (objects_after start earlier)).1 (objects_after start (call :: earlier))) = marks
      cases marks with
      | false =>
          rw [mark_events_unmarked marked, List.filter_cons_of_neg (by rw [marked]; exact Bool.false_ne_true)]
          exact inductionHypothesis
      | true =>
          rw [mark_events, if_pos marked, List.filter_cons_of_pos marked, List.length_append, List.length_cons,
            inductionHypothesis]
          have one : (event_of (objects_after start earlier).payment call).toList.length = 1 := by
            cases call with
            | mark_processing now => rfl
            | mark_succeeded now => rfl
            | mark_failed now reason => rfl
            | _ =>
                rw [marks_payment] at marked
                split at marked <;> cases marked
          rw [one]

theorem Life.stages {payment : PaymentObject} {marks : List DomainEvent} (life : Life payment marks) :
    (Exists fun started => Exists fun ended =>
      (created :: marks) <+: [created, .PaymentProcessingStarted payment.id started payment.correlation_id, ended] ∧
        (ended.event_type = "PaymentSucceeded" ∨ ended.event_type = "PaymentFailed")) ∧
    (payment.processed_at.isSome = true <-> payment.status.terminal = true) ∧
    payment.processed_at = marks.getLast?.bind event_processed_at := by
  cases life with
  | pending status unset =>
      refine ⟨⟨0, .PaymentSucceeded 0 0 none 0, ⟨_, rfl⟩, .inl rfl⟩, ?_, unset⟩
      rw [unset, status]
      exact Iff.rfl
  | processing started status unset =>
      refine ⟨⟨started, .PaymentSucceeded 0 0 none 0, ⟨_, rfl⟩, .inl rfl⟩, ?_, unset⟩
      rw [unset, status]
      exact Iff.rfl
  | succeeded started now status set =>
      refine ⟨⟨started, _, List.prefix_refl _, .inl rfl⟩, ?_, set⟩
      rw [set, status]
      exact Iff.rfl
  | failed started now reason status set =>
      refine ⟨⟨started, _, List.prefix_refl _, .inr rfl⟩, ?_, set⟩
      rw [set, status]
      exact Iff.rfl

end Properties
end Payments
