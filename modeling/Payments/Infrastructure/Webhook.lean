import Payments.Domain.Payment
import Payments.Domain.WebhookDelivery

namespace Payments
namespace Infrastructure

open Domain

/-!
# Sending one webhook

`WebhookClient.send` posts the payload of a delivery and turns the answer of
the HTTP client into a result.  The client itself is outside of the program:
what it answers is a `ClientOutcome`.
-/

structure WebhookPayload where
  event : String
  payment_id : UUID
  status : String
  amount : String
  currency : String
  idempotency_key : String
  description : Option String
  metadata : Json
  created_at : Datetime
  processed_at : Option Datetime
  correlation_id : Option String

def build_webhook_payload (payment : Payment) (delivery : WebhookDelivery) : WebhookPayload where
  event := delivery.event_type
  payment_id := payment.id
  status := payment.status.value
  amount := payment.money.amount.str
  currency := payment.money.currency.value
  idempotency_key := payment.idempotency_key.value
  description := payment.description
  metadata := payment.metadata
  created_at := payment.created_at
  processed_at := payment.processed_at
  correlation_id := delivery.correlation_id

/-- What is posted.  The signature is a function of the payload. -/
structure WebhookRequest where
  url : Text
  payload : WebhookPayload
  x_correlation_id : String
  x_event_id : UUID

def webhook_request (payment : Payment) (delivery : WebhookDelivery) : WebhookRequest where
  url := payment.webhook_url
  payload := build_webhook_payload payment delivery
  x_correlation_id := delivery.correlation_id.getD ""
  x_event_id := delivery.id

/-- What `client.post` does: it returns a response, or raises an
`httpx.HTTPError`, or raises something else, such as `httpx.InvalidURL` or
`UnicodeEncodeError`. -/
inductive ClientOutcome where
  | response (status_code : Nat) (text : Text)
  | http_error (message : Text)
  | other_error (message : String)
  deriving DecidableEq, Repr

structure WebhookSendResult where
  ok : Bool
  status_code : Option Nat
  body : Option Text
  deriving DecidableEq, Repr

/-- `WebhookClient.send`. -/
def send : ClientOutcome -> Except Error WebhookSendResult
  | .response status_code text =>
      .ok { ok := decide (200 ≤ status_code ∧ status_code < 300)
            status_code := some status_code
            body := some ⟨text.codes.take 2048⟩ }
  | .http_error message => .ok { ok := false, status_code := none, body := some message }
  | .other_error message => .error (.httpClient message)

end Infrastructure
end Payments
