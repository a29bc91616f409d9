import Payments.Application.Handlers
import Payments.Domain.Amounts

namespace Payments
namespace Presentation

open Domain Application

/-!
# The request that creates a payment

What stands between a client and the handler: the schema of the body, the
middleware that chooses a correlation id, and the route that builds the
command.  A `CreatePaymentRequest` carries the proof that the schema accepts
its fields.
-/

/-- The fields of the body that the client has sent.  The `max_length` of a
description lets no lone surrogate through. -/
structure PaymentBody where
  amount : Option Decimal
  currency : String
  description : Option (Option String)
  metadata : Option Json
  webhook_url : Option Text

namespace CreatePaymentRequest

/-- `decimal_places=2`: the places are those of the normalized amount, if it has fewer. -/
def accepts_places (amount : Decimal) : Bool :=
  decide (amount.decimal_places ≤ 2) || amount.normalize.any (fun normalized => decide (normalized.decimal_places ≤ 2))

/-- `Field(gt=0, decimal_places=2)`. -/
def accepts_amount : Decimal -> Bool
  | .finite negative coefficient exponent =>
      !negative && decide (0 < coefficient) && accepts_places (.finite negative coefficient exponent)
  | _ => false

/-- Trailing zeros are no decimal places, and `normalize` has rounded what follows the 28th digit. -/
example : accepts_amount (.finite false 1000 (-3)) = true ∧ accepts_amount (.finite false 1001 (-3)) = false ∧
    accepts_amount (.finite false (10 ^ 31 + 1) (-31)) = true := by decide +kernel

/-- `Literal['RUB', 'USD', 'EUR']`. -/
def accepts_currency (currency : String) : Bool :=
  decide (currency ∈ ["RUB", "USD", "EUR"])

/-- `Field(max_length=1024)`. -/
def accepts_description (description : Option String) : Bool :=
  description.all (fun text => decide (text.length ≤ 1024))

/-- `dict[str, Any]`. -/
def accepts_metadata : Json -> Bool
  | .object _ => true
  | _ => false

/-- `_validate_webhook_url`. -/
def accepts_webhook_url (value : Text) : Bool :=
  value.startswith "http://" || value.startswith "https://"

end CreatePaymentRequest

structure CreatePaymentRequest where
  amount : Decimal
  currency : String
  description : Option String
  metadata : Json
  webhook_url : Text
  amount_accepted : CreatePaymentRequest.accepts_amount amount = true
  currency_accepted : CreatePaymentRequest.accepts_currency currency = true
  description_accepted : CreatePaymentRequest.accepts_description description = true
  metadata_accepted : CreatePaymentRequest.accepts_metadata metadata = true
  webhook_url_accepted : CreatePaymentRequest.accepts_webhook_url webhook_url = true

namespace CreatePaymentRequest

def default_amount : Decimal := .finite false 10000 0
def default_description : Option String := some "Оплата"
def default_metadata : Json := .object [("user_id", .number 100)]
def default_webhook_url : Text := "https://smee.io/QdTdSWuNct1STc1"

/-- The validated body, or nothing when the client gets a validation error. -/
def parse (body : PaymentBody) : Option CreatePaymentRequest :=
  let amount := body.amount.getD default_amount
  let description := body.description.getD default_description
  let metadata := body.metadata.getD default_metadata
  let webhook_url := body.webhook_url.getD default_webhook_url
  if accepted : accepts_amount amount = true ∧ accepts_currency body.currency = true ∧
      accepts_description description = true ∧ accepts_metadata metadata = true ∧
      accepts_webhook_url webhook_url = true then
    some ⟨amount, body.currency, description, metadata, webhook_url, accepted.1, accepted.2.1, accepted.2.2.1,
      accepted.2.2.2.1, accepted.2.2.2.2⟩
  else none

/-- Every default passes its own check. -/
theorem parse_defaults {currency : String} (known : accepts_currency currency = true) :
    (parse ⟨none, currency, none, none, none⟩).isSome = true := by
  have accepted : accepts_amount default_amount = true ∧ accepts_currency currency = true ∧
      accepts_description default_description = true ∧ accepts_metadata default_metadata = true ∧
      accepts_webhook_url default_webhook_url = true :=
    ⟨by decide, known, by decide, rfl, by decide +kernel⟩
  simp only [parse, Option.getD_none, dif_pos accepted, Option.isSome_some]

end CreatePaymentRequest

/-! ## The correlation id -/

/-- The headers of the request that the middleware reads. -/
structure Headers where
  x_request_id : Option String
  x_correlation_id : Option String

/-- `RequestIDMiddleware.dispatch`; `generated` is a fresh `str(uuid4())`. -/
def Headers.request_id (headers : Headers) (generated : String) : String :=
  headers.x_request_id.getD generated

def Headers.correlation_id (headers : Headers) (generated : String) : String :=
  headers.x_correlation_id.getD (headers.request_id generated)

/-- The command that the route `create_payment` hands to the handler. -/
def create_payment (body : CreatePaymentRequest) (idempotency_key correlation_id : String) :
    CreatePaymentCommand where
  idempotency_key := idempotency_key
  amount := body.amount
  currency := body.currency
  description := body.description
  metadata := body.metadata
  webhook_url := body.webhook_url
  correlation_id := some correlation_id

end Presentation
end Payments
