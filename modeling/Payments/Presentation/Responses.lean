import Payments.Domain.Amounts
import Payments.Domain.Uuid
import Payments.Presentation.Requests

namespace Payments
namespace Presentation

open Domain Application

/-!
# The responses of the API

What stands between the outcome of a handler and the client: the mappers of
the results, the exception handlers with the translated messages, and the
middleware around them.
-/

structure ApiSettings where
  PAYMENTS_API_KEYS : List String
  DEFAULT_LOCALE : String
  SUPPORTED_LOCALES : List String

/-! ## Domain exceptions -/

/-- `DomainException.code`.  Other exceptions have none. -/
def code : Error -> Option String
  | .invalidPaymentData _ => some "VALIDATION_ERROR"
  | .idempotencyConflict _ => some "IDEMPOTENCY_CONFLICT"
  | .paymentNotFound _ => some "NOT_FOUND"
  | .invalidStateTransition _ _ => some "INVALID_STATE_TRANSITION"
  | _ => none

/-- `DomainException.details`. -/
def details : Error -> List (String × String)
  | .invalidPaymentData message => [("message", message)]
  | .idempotencyConflict idempotency_key => [("idempotency_key", idempotency_key)]
  | .paymentNotFound payment_id => [("payment_id", uuid_text payment_id)]
  | .invalidStateTransition current target => [("current", current), ("target", target)]
  | _ => []

def DOMAIN_HTTP_STATUS : List (String × Nat) :=
  [("NOT_FOUND", 404), ("ALREADY_EXISTS", 409), ("IDEMPOTENCY_CONFLICT", 409), ("INVALID_STATE_TRANSITION", 409),
    ("VALIDATION_ERROR", 422)]

/-! ## Translations -/

/-- A locale file: texts, and objects of them. -/
inductive Translations where
  | text (value : String)
  | group (entries : List (String × Translations))

/-- The locale files that are loaded, by their names. -/
abbrev Locales := List (String × Translations)

def codes_en : List (String × Translations) :=
  [("NOT_FOUND", .text "Resource not found"), ("ALREADY_EXISTS", .text "Resource already exists"),
    ("IDEMPOTENCY_CONFLICT", .text "Idempotency conflict"),
    ("INVALID_STATE_TRANSITION", .text "Invalid state transition"), ("VALIDATION_ERROR", .text "Validation error"),
    ("DOMAIN_ERROR", .text "Domain error")]

def codes_ru : List (String × Translations) :=
  [("NOT_FOUND", .text "Ресурс не найден"), ("ALREADY_EXISTS", .text "Ресурс уже существует"),
    ("IDEMPOTENCY_CONFLICT", .text "Конфликт идемпотентности"),
    ("INVALID_STATE_TRANSITION", .text "Недопустимый переход статуса"), ("VALIDATION_ERROR", .text "Ошибка валидации"),
    ("DOMAIN_ERROR", .text "Ошибка домена")]

/-- `runtime/i18n/locales`. -/
def locales : Locales :=
  [("en", .group [("error", .group [("codes", .group codes_en)]),
      ("validation", .group [("required", .text "Field is required")])]),
    ("ru", .group [("error", .group [("codes", .group codes_ru)]),
      ("validation", .group [("required", .text "Поле обязательно")])])]

/-- `text.replace(old, new)` for an `old` that is not empty; `skip` characters
of an occurrence are still to be left out. -/
def replace_text (old new : List Char) : Nat -> List Char -> List Char
  | _, [] => []
  | skip + 1, _ :: rest => replace_text old new skip rest
  | 0, character :: rest =>
      if old.isPrefixOf (character :: rest) then new ++ replace_text old new (old.length - 1) rest
      else character :: replace_text old new 0 rest

/-- One parameter in the place of its placeholder. -/
def substitute (text : String) (parameter : String × String) : String :=
  String.ofList (replace_text ('\x7b' :: parameter.1.toList ++ ['\x7d']) parameter.2.toList 0 text.toList)

structure JsonTranslator where
  cache : Locales
  default : String

namespace JsonTranslator

def step (found : Option Translations) (part : String) : Option Translations :=
  match found with
  | some (.group entries) => entries.lookup part
  | _ => none

/-- `_resolve` of a key that is split at its dots. -/
def resolve (translator : JsonTranslator) (parts : List String) (locale : String) : Option Translations :=
  parts.foldl step (translator.cache.lookup locale)

/-- `bool(found)`. -/
def truthy : Option Translations -> Bool
  | some (.text value) => value ≠ ""
  | some (.group entries) => !entries.isEmpty
  | none => false

/-- `None` when the key leads to an object, which has no method `replace`. -/
def translate (translator : JsonTranslator) (parts : List String) (locale : String)
    (params : List (String × String)) : Option String :=
  let found := translator.resolve parts locale
  match if truthy found then found else translator.resolve parts translator.default with
  | none => some (".".intercalate parts)
  | some (.text value) => some (params.foldl substitute value)
  | some (.group _) => none

end JsonTranslator

/-! ## The locale of a request -/

def strip (text : List Char) : List Char :=
  ((text.dropWhile is_space).reverse.dropWhile is_space).reverse

/-- `text.split(separator)[0]`. -/
def before (separator : Char) (text : List Char) : List Char :=
  text.takeWhile (fun character => character ≠ separator)

structure Locale where
  code : String
  fallback : Option String

/-- The locale that `LocaleMiddleware.dispatch` sets for the rest of the request. -/
def LocaleMiddleware.locale (settings : ApiSettings) (accept_language : Option String) : Locale :=
  let raw := strip (before ',' (accept_language.getD "").toList)
  let lang := String.ofList (before '-' (before ';' raw))
  if lang ∈ settings.SUPPORTED_LOCALES then ⟨lang, some settings.DEFAULT_LOCALE⟩
  else ⟨settings.DEFAULT_LOCALE, none⟩

/-! ## Bodies of responses -/

structure PaymentCreatedResponse where
  payment_id : UUID
  status : String
  created_at : Datetime

/-- `gateway_response` is an object. -/
def AttemptResponse.accepts (gateway_response : Option Json) : Bool :=
  gateway_response.all CreatePaymentRequest.accepts_metadata

structure AttemptResponse where
  attempt_number : Nat
  status : String
  error : Option String
  gateway_response : Option Json
  created_at : Datetime
  accepted : AttemptResponse.accepts gateway_response = true

structure PaymentResponse where
  payment_id : UUID
  status : String
  amount : Decimal
  currency : String
  description : Option String
  metadata : Json
  idempotency_key : String
  webhook_url : Text
  created_at : Datetime
  processed_at : Option Datetime
  attempts : Option (List AttemptResponse)
  accepted : CreatePaymentRequest.accepts_metadata metadata = true

/-- Nothing when the schema refuses a field. -/
def to_attempt_response (dto : AttemptDTO) : Option AttemptResponse :=
  if accepted : AttemptResponse.accepts dto.gateway_response = true then
    some ⟨dto.attempt_number, dto.status, dto.error, dto.gateway_response, dto.created_at, accepted⟩
  else none

def to_attempt_responses (attempts : Option (List AttemptDTO)) : Option (Option (List AttemptResponse)) :=
  match attempts with
  | some attempts => (attempts.mapM to_attempt_response).map some
  | none => some none

def to_payment_response (dto : PaymentDTO) : Option PaymentResponse :=
  (to_attempt_responses dto.attempts).bind (fun attempts =>
    if accepted : CreatePaymentRequest.accepts_metadata dto.metadata = true then
      some ⟨dto.payment_id, dto.status, dto.amount, dto.currency, dto.description, dto.metadata, dto.idempotency_key,
        dto.webhook_url, dto.created_at, dto.processed_at, attempts, accepted⟩
    else none)

inductive Content where
  | created (body : PaymentCreatedResponse)
  | payment (body : PaymentResponse)
  | domain_error (code message : String) (details : List (String × String))
  /-- The list of the refused fields comes from the framework. -/
  | validation_error (message : String)
  | internal_error (request_id : String)
  | http_error (detail : String)

structure Response where
  status_code : Nat
  content : Content
  headers : List (String × String)

/-! ## Exceptions as responses -/

/-- What a route, a dependency or the framework raises. -/
inductive Raised where
  | handler (error : Error)
  /-- `HTTPException`. -/
  | http (status_code : Nat) (detail : String)
  /-- `RequestValidationError`. -/
  | request_validation
  /-- `pydantic.ValidationError` of a response schema. -/
  | response_validation

/-- `JsonTranslator(settings)`. -/
def translator (settings : ApiSettings) : JsonTranslator := ⟨locales, settings.DEFAULT_LOCALE⟩

/-- The translated text of a code. -/
def message (settings : ApiSettings) (code : String) (locale : Locale) (params : List (String × String)) :
    Option String :=
  (translator settings).translate ["error", "codes", code] locale.code params

def handle_domain (settings : ApiSettings) (locale : Locale) (error : Error) : Option Response :=
  match code error with
  | none => none
  | some code =>
      (message settings code locale (details error)).map (fun message =>
        ⟨(DOMAIN_HTTP_STATUS.lookup code).getD 500, .domain_error code message (details error), []⟩)

def handle_validation (settings : ApiSettings) (locale : Locale) : Option Response :=
  (message settings "VALIDATION_ERROR" locale []).map (fun message => ⟨422, .validation_error message, []⟩)

def handle_unhandled (request_id : String) : Response := ⟨500, .internal_error request_id, []⟩

/-- The handlers that run inside the middleware, or nothing when none of them
takes the exception. -/
def exception_response (settings : ApiSettings) (locale : Locale) : Raised -> Option Response
  | .handler error => handle_domain settings locale error
  | .http status_code detail => some ⟨status_code, .http_error detail, []⟩
  | .request_validation => handle_validation settings locale
  | .response_validation => none

/-! ## One request -/

/-- What every request of the API may carry. -/
structure Incoming where
  headers : Headers
  /-- A fresh `str(uuid4())`. -/
  generated : String
  accept_language : Option String
  x_api_key : Option String

/-- The headers that `RequestIDMiddleware.dispatch` adds to the response. -/
def Incoming.identified (incoming : Incoming) (response : Response) : Response :=
  { response with headers := response.headers ++
      [("X-Request-ID", incoming.headers.request_id incoming.generated),
        ("X-Correlation-ID", incoming.headers.correlation_id incoming.generated)] }

/-- The middleware around a route.  The handler of all other exceptions runs
outside of it, where the request id has its default again; a cancelled request
gets no response. -/
def respond (settings : ApiSettings) (incoming : Incoming) : Except Raised Response -> Option Response
  | .ok response => some (incoming.identified response)
  | .error (.handler .cancelled) => none
  | .error raised =>
      match exception_response settings (LocaleMiddleware.locale settings incoming.accept_language) raised with
      | some response => some (incoming.identified response)
      | none => some (handle_unhandled "none")

def require_api_key (settings : ApiSettings) (x_api_key : Option String) : Except Raised Unit :=
  match x_api_key with
  | some key =>
      if key = "" ∨ key ∉ settings.PAYMENTS_API_KEYS then .error (.http 401 "Invalid API key") else .ok ()
  | none => .error (.http 401 "Invalid API key")

/-! ## The routes -/

/-- `POST /payments`. -/
structure PostPayments where
  incoming : Incoming
  idempotency_key : Option String
  body : PaymentBody

/-- The command for the handler, if the request gets as far. -/
def PostPayments.command (settings : ApiSettings) (request : PostPayments) : Except Raised CreatePaymentCommand := do
  require_api_key settings request.incoming.x_api_key
  match request.idempotency_key, CreatePaymentRequest.parse request.body with
  | some idempotency_key, some body =>
      return create_payment body idempotency_key
        (request.incoming.headers.correlation_id request.incoming.generated)
  | _, _ => throw .request_validation

/-- What the route makes of the outcome of the handler. -/
def PostPayments.result (outcome : Except Error PaymentDTO) : Except Raised Response :=
  match outcome with
  | .ok dto => .ok ⟨202, .created ⟨dto.payment_id, dto.status, dto.created_at⟩, []⟩
  | .error error => .error (.handler error)

/-- `GET /payments/{payment_id}`; a path that holds no identifier gives none. -/
structure GetPayment where
  incoming : Incoming
  payment_id : Option UUID

def GetPayment.query (settings : ApiSettings) (request : GetPayment) : Except Raised GetPaymentQuery := do
  require_api_key settings request.incoming.x_api_key
  match request.payment_id with
  | some payment_id => return ⟨payment_id⟩
  | none => throw .request_validation

def GetPayment.result (outcome : Except Error PaymentDTO) : Except Raised Response :=
  match outcome with
  | .ok dto =>
      match to_payment_response dto with
      | some body => .ok ⟨200, .payment body, []⟩
      | none => .error .response_validation
  | .error error => .error (.handler error)

end Presentation
end Payments
