import Payments.Presentation.Requests
import Payments.System.Footprints
import Payments.Properties.AcceptedValues

namespace Payments
namespace Properties

open Concurrency Domain Infrastructure Application Presentation Prog Payments.System

/-!
# Which accepted requests can be stored

The schema, the value objects and the middleware each enforce a part of what
the columns require.  Together they leave gaps: the size of the amount, the
length of the correlation id, and what PostgreSQL does not keep of the texts and
of the metadata.  How deep metadata may be nested is up to the interpreter's
stack, and how large a value may be up to the database: `Limits` stands for both.
-/

/-! ## Amounts -/

/-- The amount is a positive number of cents, which `quantize` keeps. -/
structure InCents (amount : Decimal) (cents : Nat) : Prop where
  positive : 0 < cents
  value : amount.value = some ((cents : Rat) / 100)
  quantized : amount.quantize_cents = .ok (.finite false cents (-2))

theorem InCents.numeric {amount : Decimal} {cents : Nat} (known : InCents amount cents) :
    numeric_18_2 amount = if cents < 10 ^ 18 then some (.finite false cents (-2)) else none := by
  rw [numeric_18_2, known.quantized]

/-- What surrounds the handler when it runs. -/
structure Limits where
  /-- The nested calls that the interpreter's stack has room for: a recursion over a
  value that is nested deeper ends in a `RecursionError`. -/
  nesting : Nat
  /-- Whether the database takes values of this size. -/
  takes : Json -> Text -> Bool

/-- The metadata and the URL can be written. -/
structure Limits.Allow (limits : Limits) (metadata : Json) (webhook_url : Text) : Prop where
  nesting : json_nesting metadata ≤ limits.nesting
  takes : limits.takes metadata webhook_url = true

/-- What no layer in front of the database enforces. -/
structure Fits (limits : Limits) (request : CreatePaymentRequest) (correlation_id : String) : Prop where
  amount : Exists fun value => request.amount.value = some value ∧ value < 10 ^ 16
  correlation_id : optional_varchar_storable 64 (some correlation_id) = true
  description : optional_text_storable request.description = true
  metadata : json_storable request.metadata = true
  webhook_url : str_storable request.webhook_url = true
  allowed : limits.Allow request.metadata request.webhook_url

variable {limits : Limits} {request : CreatePaymentRequest} {idempotency_key correlation_id : String}

end Properties
end Payments
