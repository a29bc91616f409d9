import Payments.Domain.ValueObjects

namespace Payments
namespace Domain

/-!
# The payment aggregate

`Payment` is the aggregate root with its state machine, its event queue and
its list of charge attempts.  A method that mutates the aggregate and may raise
is a function to `Except Error`: on an error nothing is returned, so the caller
keeps the aggregate as it was.

The charge attempts are child entities with a state machine of their own.
`begin_attempt` and its siblings also return the attempt, because the handler
keeps a reference to it and saves it later.
-/

/-- What `json.loads` returns: what a client may send as `metadata` and a gateway may
answer.  It also reads `NaN` and `Infinity`, and `1e400` as an infinity. -/
inductive Json where
  | null
  | bool (value : Bool)
  | number (value : Rat)
  | infinity (negative : Bool)
  | nan
  | string (value : Text)
  | array (items : List Json)
  | object (fields : List (Text × Json))

structure GatewayResult where
  success : Bool
  gateway_id : Option String
  error : Option String
  raw : Option Json

/-! ## Domain events -/

/-- The base fields of every event, and what each of the four classes adds. -/
inductive DomainEvent where
  | PaymentCreated (aggregate_id : UUID) (occurred_at : Datetime) (correlation_id : Option String)
      (amount currency : String) (description : Option String) (metadata : Json)
      (webhook_url : Text) (idempotency_key : String) (created_at : Datetime)
  | PaymentProcessingStarted (aggregate_id : UUID) (occurred_at : Datetime)
      (correlation_id : Option String)
  | PaymentSucceeded (aggregate_id : UUID) (occurred_at : Datetime) (correlation_id : Option String)
      (processed_at : Datetime)
  | PaymentFailed (aggregate_id : UUID) (occurred_at : Datetime) (correlation_id : Option String)
      (reason : Option String) (processed_at : Datetime)

namespace DomainEvent

/-- `type(event).__name__`. -/
def event_type : DomainEvent -> String
  | .PaymentCreated .. => "PaymentCreated"
  | .PaymentProcessingStarted .. => "PaymentProcessingStarted"
  | .PaymentSucceeded .. => "PaymentSucceeded"
  | .PaymentFailed .. => "PaymentFailed"

def aggregate_id : DomainEvent -> UUID
  | .PaymentCreated id .. => id
  | .PaymentProcessingStarted id .. => id
  | .PaymentSucceeded id .. => id
  | .PaymentFailed id .. => id

def occurred_at : DomainEvent -> Datetime
  | .PaymentCreated _ time .. => time
  | .PaymentProcessingStarted _ time .. => time
  | .PaymentSucceeded _ time .. => time
  | .PaymentFailed _ time .. => time

def correlation_id : DomainEvent -> Option String
  | .PaymentCreated _ _ correlation .. => correlation
  | .PaymentProcessingStarted _ _ correlation => correlation
  | .PaymentSucceeded _ _ correlation .. => correlation
  | .PaymentFailed _ _ correlation .. => correlation

end DomainEvent

/-- `str(amount)` of a `Decimal`: plain notation for small exponents,
scientific notation otherwise. -/
def Decimal.str : Decimal -> String
  | .infinity negative => if negative then "-Infinity" else "Infinity"
  | .nan signaling => if signaling then "sNaN" else "NaN"
  | .finite negative coefficient exponent =>
      let digits := Nat.toDigits 10 coefficient
      let leftdigits : Int := exponent + digits.length
      let dotplace : Int := if exponent ≤ 0 ∧ -6 < leftdigits then leftdigits else 1
      let (intpart, fracpart) :=
        if dotplace ≤ 0 then (['0'], '.' :: (List.replicate (-dotplace).toNat '0' ++ digits))
        else if digits.length ≤ dotplace.toNat then
          (digits ++ List.replicate (dotplace.toNat - digits.length) '0', [])
        else (digits.take dotplace.toNat, '.' :: digits.drop dotplace.toNat)
      let shift := leftdigits - dotplace
      let suffix :=
        if shift = 0 then []
        else ['E', if 0 ≤ shift then '+' else '-'] ++ Nat.toDigits 10 shift.natAbs
      String.ofList ((if negative then ['-'] else []) ++ intpart ++ fracpart ++ suffix)

/-! ## Charge attempts -/

inductive PaymentAttemptStatus where
  | CREATED
  | PROCESSING
  | SUCCEEDED
  | FAILED
  deriving DecidableEq, Repr

def PaymentAttemptStatus.value : PaymentAttemptStatus -> String
  | .CREATED => "created"
  | .PROCESSING => "processing"
  | .SUCCEEDED => "succeeded"
  | .FAILED => "failed"

/-- One interaction with the external gateway. -/
structure PaymentAttempt where
  id : UUID
  payment_id : UUID
  attempt_number : Nat
  status : PaymentAttemptStatus
  error : Option String
  gateway_response : Option Json
  correlation_id : Option String
  created_at : Datetime
  updated_at : Datetime

namespace PaymentAttempt

def VALID_TRANSITIONS : PaymentAttemptStatus -> List PaymentAttemptStatus
  | .CREATED => [.PROCESSING]
  | .PROCESSING => [.SUCCEEDED, .FAILED]
  | .SUCCEEDED => []
  | .FAILED => []

def create (id payment_id : UUID) (attempt_number : Nat) (correlation_id : Option String)
    (created_at : Datetime) : PaymentAttempt where
  id := id
  payment_id := payment_id
  attempt_number := attempt_number
  status := .CREATED
  error := none
  gateway_response := none
  correlation_id := correlation_id
  created_at := created_at
  updated_at := created_at

def transition (attempt : PaymentAttempt) (target : PaymentAttemptStatus) :
    Except Error PaymentAttempt :=
  if target ∈ VALID_TRANSITIONS attempt.status then .ok { attempt with status := target }
  else .error (.invalidStateTransition attempt.status.value target.value)

def start (attempt : PaymentAttempt) (now : Datetime) : Except Error PaymentAttempt := do
  let attempt ← attempt.transition .PROCESSING
  return { attempt with updated_at := now }

def succeed (attempt : PaymentAttempt) (now : Datetime) (result : GatewayResult) :
    Except Error PaymentAttempt := do
  let attempt ← attempt.transition .SUCCEEDED
  return { attempt with gateway_response := result.raw, error := none, updated_at := now }

def fail (attempt : PaymentAttempt) (now : Datetime) (error : Option String) :
    Except Error PaymentAttempt := do
  let attempt ← attempt.transition .FAILED
  return { attempt with error := error, updated_at := now }

end PaymentAttempt

/-! ## The aggregate root -/

inductive PaymentStatus where
  | PENDING
  | PROCESSING
  | SUCCEEDED
  | FAILED
  deriving DecidableEq, Repr

def PaymentStatus.value : PaymentStatus -> String
  | .PENDING => "pending"
  | .PROCESSING => "processing"
  | .SUCCEEDED => "succeeded"
  | .FAILED => "failed"

/-- Succeeded and failed payments admit no transition. -/
def PaymentStatus.terminal : PaymentStatus -> Bool
  | .SUCCEEDED => true
  | .FAILED => true
  | _ => false

structure Payment where
  id : UUID
  idempotency_key : IdempotencyKey
  money : Money
  description : Option String
  metadata : Json
  webhook_url : Text
  correlation_id : Option String
  status : PaymentStatus
  created_at : Datetime
  processed_at : Option Datetime
  version : Nat
  events : List DomainEvent
  attempts : List PaymentAttempt

namespace Payment

def VALID_TRANSITIONS : PaymentStatus -> List PaymentStatus
  | .PENDING => [.PROCESSING]
  | .PROCESSING => [.SUCCEEDED, .FAILED]
  | .SUCCEEDED => []
  | .FAILED => []

def add_event (payment : Payment) (event : DomainEvent) : Payment :=
  { payment with events := payment.events ++ [event] }

/-- A pending payment of version 0 with a queued `PaymentCreated` event. -/
def create (id : UUID) (idempotency_key : IdempotencyKey) (money : Money)
    (description : Option String) (metadata : Json) (webhook_url : Text)
    (correlation_id : Option String) (created_at : Datetime) : Payment :=
  let payment : Payment :=
    { id, idempotency_key, money, description, metadata, webhook_url, correlation_id
      status := .PENDING
      created_at
      processed_at := none
      version := 0
      events := []
      attempts := [] }
  payment.add_event
    (.PaymentCreated id created_at correlation_id money.amount.str money.currency.value description
      metadata webhook_url idempotency_key.value created_at)

def transition (payment : Payment) (target : PaymentStatus) : Except Error Payment :=
  if target ∈ VALID_TRANSITIONS payment.status then .ok { payment with status := target }
  else .error (.invalidStateTransition payment.status.value target.value)

def mark_processing (payment : Payment) (now : Datetime) : Except Error Payment := do
  let payment ← payment.transition .PROCESSING
  let payment := { payment with version := payment.version + 1 }
  return payment.add_event (.PaymentProcessingStarted payment.id now payment.correlation_id)

def mark_succeeded (payment : Payment) (now : Datetime) : Except Error Payment := do
  let payment ← payment.transition .SUCCEEDED
  let payment := { payment with processed_at := some now, version := payment.version + 1 }
  return payment.add_event (.PaymentSucceeded payment.id now payment.correlation_id now)

def mark_failed (payment : Payment) (now : Datetime) (reason : Option String) :
    Except Error Payment := do
  let payment ← payment.transition .FAILED
  let payment := { payment with processed_at := some now, version := payment.version + 1 }
  return payment.add_event (.PaymentFailed payment.id now payment.correlation_id reason now)

/-- Restore attempts that have been saved before. -/
def hydrate_attempts (payment : Payment) (attempts : List PaymentAttempt) : Payment :=
  { payment with attempts := attempts }

def require_processing (payment : Payment) (op : String) : Except Error Unit :=
  if payment.status = .PROCESSING then .ok ()
  else .error (.invalidStateTransition payment.status.value op)

/-- `max((a.attempt_number for a in attempts), default=0) + 1`. -/
def next_attempt_number (payment : Payment) : Nat :=
  (payment.attempts.map PaymentAttempt.attempt_number).foldr max 0 + 1

def begin_attempt (payment : Payment) (attempt_id : UUID) (correlation_id : Option String)
    (now : Datetime) : Except Error (Payment × PaymentAttempt) := do
  payment.require_processing "begin_attempt"
  let attempt := PaymentAttempt.create attempt_id payment.id payment.next_attempt_number correlation_id now
  let attempt ← attempt.start now
  return ({ payment with attempts := payment.attempts ++ [attempt] }, attempt)

/-- The last attempt, which the aggregate and the handler share. -/
def current_attempt (payment : Payment) : Except Error PaymentAttempt :=
  match payment.attempts.getLast? with
  | some attempt => .ok attempt
  | none => .error (.invalidStateTransition payment.status.value "attempt")

def replace_current (payment : Payment) (attempt : PaymentAttempt) : Payment :=
  { payment with attempts := payment.attempts.dropLast ++ [attempt] }

def succeed_attempt (payment : Payment) (now : Datetime) (result : GatewayResult) :
    Except Error (Payment × PaymentAttempt) := do
  payment.require_processing "succeed_attempt"
  let attempt ← payment.current_attempt
  let attempt ← attempt.succeed now result
  return (payment.replace_current attempt, attempt)

def fail_attempt (payment : Payment) (now : Datetime) (error : Option String) :
    Except Error (Payment × PaymentAttempt) := do
  payment.require_processing "fail_attempt"
  let attempt ← payment.current_attempt
  let attempt ← attempt.fail now error
  return (payment.replace_current attempt, attempt)

/-- Return the queued events and clear the queue. -/
def pull_events (payment : Payment) : List DomainEvent × Payment :=
  (payment.events, { payment with events := [] })

end Payment
end Domain
end Payments
