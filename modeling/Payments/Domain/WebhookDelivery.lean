import Payments.Domain.ValueObjects

namespace Payments
namespace Domain

/-!
# Webhook deliveries

A delivery is the record of all attempts to hand one payment event to the
merchant.  While it is pending, `attempt` is the number of the next attempt;
once it is terminal, it is the number of the last one.
-/

inductive WebhookDeliveryStatus where
  | PENDING
  | SUCCESS
  | FAILED
  deriving DecidableEq, Repr

def WebhookDeliveryStatus.value : WebhookDeliveryStatus -> String
  | .PENDING => "pending"
  | .SUCCESS => "success"
  | .FAILED => "failed"

structure WebhookDelivery where
  id : UUID
  payment_id : UUID
  event_type : String
  attempt : Nat
  status : WebhookDeliveryStatus
  response_code : Option Nat
  response_body : Option Text
  next_retry_at : Option Datetime
  correlation_id : Option String
  created_at : Datetime
  updated_at : Datetime
  deriving DecidableEq, Repr

namespace WebhookDelivery

def VALID_TRANSITIONS : WebhookDeliveryStatus -> List WebhookDeliveryStatus
  | .PENDING => [.PENDING, .SUCCESS, .FAILED]
  | .SUCCESS => []
  | .FAILED => []

def create (id payment_id : UUID) (event_type : String) (correlation_id : Option String)
    (created_at : Datetime) : WebhookDelivery where
  id := id
  payment_id := payment_id
  event_type := event_type
  attempt := 1
  status := .PENDING
  response_code := none
  response_body := none
  next_retry_at := none
  correlation_id := correlation_id
  created_at := created_at
  updated_at := created_at

def transition (delivery : WebhookDelivery) (target : WebhookDeliveryStatus) :
    Except Error WebhookDelivery :=
  if target ∈ VALID_TRANSITIONS delivery.status then .ok { delivery with status := target }
  else .error (.invalidStateTransition delivery.status.value target.value)

def mark_success (delivery : WebhookDelivery) (now : Datetime) (response_code : Option Nat)
    (response_body : Option Text) : Except Error WebhookDelivery := do
  let delivery ← delivery.transition .SUCCESS
  return { delivery with response_code, response_body, next_retry_at := none, updated_at := now }

def mark_failed (delivery : WebhookDelivery) (now : Datetime) (response_code : Option Nat)
    (response_body : Option Text) : Except Error WebhookDelivery := do
  let delivery ← delivery.transition .FAILED
  return { delivery with response_code, response_body, next_retry_at := none, updated_at := now }

def schedule_retry (delivery : WebhookDelivery) (now next_retry_at : Datetime)
    (response_code : Option Nat) (response_body : Option Text) : Except Error WebhookDelivery := do
  let delivery ← delivery.transition .PENDING
  return { delivery with
    attempt := delivery.attempt + 1
    next_retry_at := some next_retry_at
    response_code
    response_body
    updated_at := now }

/-- Schedule a retry while the policy admits one, otherwise fail for good. -/
def record_failure (delivery : WebhookDelivery) (now : Datetime) (response_code : Option Nat)
    (response_body : Option Text) (retry_policy : RetryPolicy) : Except Error WebhookDelivery :=
  if retry_policy.should_retry delivery.attempt then do
    let next_retry_at ← retry_policy.next_retry_at delivery.attempt now
    delivery.schedule_retry now next_retry_at response_code response_body
  else delivery.mark_failed now response_code response_body

end WebhookDelivery
end Domain
end Payments
