import Payments.Domain.Payment

namespace Payments
namespace Domain

/-!
# The aggregate as mutable objects

The methods of `Payment` and `PaymentAttempt` assign to the fields of objects
one after the other.  Here an exception keeps the assignments made before it,
and attempts are references: two places of a list may hold the same object, and
a caller that has been given an attempt shares it with the aggregate.
-/

/-- The fields of a `PaymentAttempt`; any integer may be its number. -/
structure AttemptObject where
  id : UUID
  payment_id : UUID
  attempt_number : Int
  status : PaymentAttemptStatus
  error : Option String
  gateway_response : Option Json
  correlation_id : Option String
  created_at : Datetime
  updated_at : Datetime

/-- A reference to an attempt. -/
abbrev Reference := Nat

/-- The fields of a `Payment`. -/
structure PaymentObject where
  id : UUID
  idempotency_key : IdempotencyKey
  money : Money
  description : Option String
  metadata : Json
  webhook_url : Text
  correlation_id : Option String
  status : PaymentStatus
  created_at : Datetime
  processed_at : Option Datetime
  version : Nat
  events : List DomainEvent
  attempts : List Reference

/-- One payment and all attempts, with the reference of the next new one. -/
structure Objects where
  payment : PaymentObject
  attempt : Reference -> AttemptObject
  next : Reference

/-- A method may raise; what it has assigned before stays. -/
abbrev Method (X : Type) := ExceptT Error (StateM Objects) X

def Method.call {X : Type} (method : Method X) (objects : Objects) : Except Error X × Objects :=
  (ExceptT.run method).run objects

def assign_payment (change : PaymentObject -> PaymentObject) : Method Unit :=
  modify (fun objects => { objects with payment := change objects.payment })

def assign_attempt (reference : Reference) (change : AttemptObject -> AttemptObject) : Method Unit :=
  modify (fun objects => { objects with
    attempt := fun other => if other = reference then change (objects.attempt reference) else objects.attempt other })

/-! ## Attempts -/

namespace AttemptObject

/-- `PaymentAttempt.create`: a new object. -/
def create (id payment_id : UUID) (attempt_number : Int) (correlation_id : Option String) (created_at : Datetime) :
    Method Reference := do
  let reference := (← get).next
  modify (fun objects => { objects with next := reference + 1 })
  assign_attempt reference (fun _ =>
    { id, payment_id, attempt_number, correlation_id, created_at
      status := .CREATED
      error := none
      gateway_response := none
      updated_at := created_at })
  return reference

def transition (self : Reference) (target : PaymentAttemptStatus) : Method Unit := do
  let status := ((← get).attempt self).status
  if target ∉ PaymentAttempt.VALID_TRANSITIONS status then
    throw (.invalidStateTransition status.value target.value)
  assign_attempt self (fun attempt => { attempt with status := target })

def start (self : Reference) (now : Datetime) : Method Unit := do
  transition self .PROCESSING
  assign_attempt self (fun attempt => { attempt with updated_at := now })

def succeed (self : Reference) (now : Datetime) (result : GatewayResult) : Method Unit := do
  transition self .SUCCEEDED
  assign_attempt self (fun attempt => { attempt with gateway_response := result.raw })
  assign_attempt self (fun attempt => { attempt with error := none })
  assign_attempt self (fun attempt => { attempt with updated_at := now })

def fail (self : Reference) (now : Datetime) (error : Option String) : Method Unit := do
  transition self .FAILED
  assign_attempt self (fun attempt => { attempt with error := error })
  assign_attempt self (fun attempt => { attempt with updated_at := now })

end AttemptObject

/-! ## The payment -/

namespace PaymentObject

def add_event (event : DomainEvent) : Method Unit :=
  assign_payment (fun payment => { payment with events := payment.events ++ [event] })

def transition (target : PaymentStatus) : Method Unit := do
  let status := (← get).payment.status
  if target ∉ Payment.VALID_TRANSITIONS status then
    throw (.invalidStateTransition status.value target.value)
  assign_payment (fun payment => { payment with status := target })

def mark_processing (now : Datetime) : Method Unit := do
  transition .PROCESSING
  assign_payment (fun payment => { payment with version := payment.version + 1 })
  let self := (← get).payment
  add_event (.PaymentProcessingStarted self.id now self.correlation_id)

def mark_succeeded (now : Datetime) : Method Unit := do
  transition .SUCCEEDED
  assign_payment (fun payment => { payment with processed_at := some now })
  assign_payment (fun payment => { payment with version := payment.version + 1 })
  let self := (← get).payment
  add_event (.PaymentSucceeded self.id now self.correlation_id now)

def mark_failed (now : Datetime) (reason : Option String) : Method Unit := do
  transition .FAILED
  assign_payment (fun payment => { payment with processed_at := some now })
  assign_payment (fun payment => { payment with version := payment.version + 1 })
  let self := (← get).payment
  add_event (.PaymentFailed self.id now self.correlation_id reason now)

def hydrate_attempts (attempts : List Reference) : Method Unit :=
  assign_payment (fun payment => { payment with attempts := attempts })

def require_processing (op : String) : Method Unit := do
  let status := (← get).payment.status
  if status ≠ .PROCESSING then
    throw (.invalidStateTransition status.value op)

/-- `max(numbers, default=0)`. -/
def largest : List Int -> Int
  | [] => 0
  | number :: rest => rest.foldl max number

def begin_attempt (attempt_id : UUID) (correlation_id : Option String) (now : Datetime) : Method Reference := do
  require_processing "begin_attempt"
  let objects ← get
  let number := largest (objects.payment.attempts.map (fun self => (objects.attempt self).attempt_number)) + 1
  let attempt ← AttemptObject.create attempt_id objects.payment.id number correlation_id now
  AttemptObject.start attempt now
  assign_payment (fun payment => { payment with attempts := payment.attempts ++ [attempt] })
  return attempt

def current_attempt : Method Reference := do
  let self := (← get).payment
  match self.attempts.getLast? with
  | none => throw (.invalidStateTransition self.status.value "attempt")
  | some attempt => return attempt

def succeed_attempt (now : Datetime) (result : GatewayResult) : Method Reference := do
  require_processing "succeed_attempt"
  let attempt ← current_attempt
  AttemptObject.succeed attempt now result
  return attempt

def fail_attempt (now : Datetime) (error : Option String) : Method Reference := do
  require_processing "fail_attempt"
  let attempt ← current_attempt
  AttemptObject.fail attempt now error
  return attempt

def pull_events : Method (List DomainEvent) := do
  let events := (← get).payment.events
  assign_payment (fun payment => { payment with events := [] })
  return events

/-- The object that `Payment.create` builds, with its event in the queue. -/
def create (id : UUID) (idempotency_key : IdempotencyKey) (money : Money) (description : Option String)
    (metadata : Json) (webhook_url : Text) (correlation_id : Option String) (created_at : Datetime) :
    PaymentObject where
  id := id
  idempotency_key := idempotency_key
  money := money
  description := description
  metadata := metadata
  webhook_url := webhook_url
  correlation_id := correlation_id
  status := .PENDING
  created_at := created_at
  processed_at := none
  version := 0
  events := [.PaymentCreated id created_at correlation_id money.amount.str money.currency.value description metadata
    webhook_url idempotency_key.value created_at]
  attempts := []

end PaymentObject

/-! ## Calls -/

inductive PaymentCall where
  | mark_processing (now : Datetime)
  | mark_succeeded (now : Datetime)
  | mark_failed (now : Datetime) (reason : Option String)
  | begin_attempt (attempt_id : UUID) (correlation_id : Option String) (now : Datetime)
  | succeed_attempt (now : Datetime) (result : GatewayResult)
  | fail_attempt (now : Datetime) (error : Option String)
  | hydrate_attempts (attempts : List Reference)
  | pull_events

/-- What a call returns. -/
inductive Returned where
  | nothing
  | attempt (reference : Reference)
  | events (events : List DomainEvent)

def PaymentCall.perform : PaymentCall -> Method Returned
  | .mark_processing now => do PaymentObject.mark_processing now; return .nothing
  | .mark_succeeded now => do PaymentObject.mark_succeeded now; return .nothing
  | .mark_failed now reason => do PaymentObject.mark_failed now reason; return .nothing
  | .begin_attempt attempt_id correlation_id now => do
      return .attempt (← PaymentObject.begin_attempt attempt_id correlation_id now)
  | .succeed_attempt now result => do return .attempt (← PaymentObject.succeed_attempt now result)
  | .fail_attempt now error => do return .attempt (← PaymentObject.fail_attempt now error)
  | .hydrate_attempts attempts => do PaymentObject.hydrate_attempts attempts; return .nothing
  | .pull_events => do return .events (← PaymentObject.pull_events)

/-- A call with the objects before and after it. -/
structure CallStep where
  before : Objects
  call : PaymentCall
  answer : Except Error Returned
  after : Objects

/-- The objects after some calls, the last one first. -/
def objects_after (start : Objects) : List PaymentCall -> Objects
  | [] => start
  | call :: earlier => (call.perform.call (objects_after start earlier)).2

/-- The steps of some calls, the last one first. -/
def call_steps (start : Objects) : List PaymentCall -> List CallStep
  | [] => []
  | call :: earlier =>
      { before := objects_after start earlier
        call := call
        answer := (call.perform.call (objects_after start earlier)).1
        after := objects_after start (call :: earlier) } :: call_steps start earlier

end Domain
end Payments
