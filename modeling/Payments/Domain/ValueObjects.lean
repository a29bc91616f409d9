import Mathlib.Data.Rat.Defs
import Mathlib.Algebra.Order.Ring.Rat
import Mathlib.Algebra.Ring.Nat

namespace Payments
namespace Domain

/-!
# Value objects of the payments domain

`Money`, `IdempotencyKey` and `RetryPolicy` validate in their constructors.
Here the checks are functions of their own and each value object carries the
proof that its check succeeded, so an invalid value object cannot be built.

Instants are rational numbers of seconds since 1970, and durations are added to
them exactly.  Identifiers are natural numbers: only their equality and, in an
`ORDER BY`, their order matter.  A text that may contain lone surrogates is a
`Text`, any other one is a `String`.
-/

abbrev UUID := Nat

/-- A timezone-aware `datetime`, in seconds since 1970. -/
abbrev Datetime := Rat

/-- A `float` that stands for a number of seconds. -/
inductive Seconds where
  | finite (value : Rat)
  | infinity (negative : Bool)
  | nan
  deriving DecidableEq

/-- `seconds < 0`; no comparison with a NaN holds. -/
def Seconds.negative : Seconds -> Bool
  | .finite value => decide (value < 0)
  | .infinity negative => negative
  | .nan => false

/-! ## Texts -/

/-- A code point, which may be a surrogate. -/
abbrev CodePoint := Fin 0x110000

/-- A `str`: a sequence of code points.  Where one is decoded from JSON, the halves of
a pair have been joined, and a surrogate is a lone one. -/
structure Text where
  codes : List CodePoint
  deriving DecidableEq, Repr

def CodePoint.of_char (character : Char) : CodePoint :=
  ⟨character.toNat, by
    rcases character.valid with below | ⟨_, below⟩
    · exact Nat.lt_trans below (by decide)
    · exact below⟩

/-- A text without surrogates. -/
def Text.of_string (text : String) : Text := ⟨text.toList.map CodePoint.of_char⟩

instance : Coe String Text := ⟨Text.of_string⟩

def CodePoint.surrogate (code : CodePoint) : Bool :=
  decide (0xD800 ≤ code.val ∧ code.val ≤ 0xDFFF)

/-- The characters of a text without surrogates. -/
def Text.string (text : Text) : Option String :=
  if text.codes.all (fun code => !code.surrogate) then
    some (String.ofList (text.codes.map (fun code => Char.ofNat code.val)))
  else none

theorem CodePoint.surrogate_of_char (character : Char) : (CodePoint.of_char character).surrogate = false := by
  refine decide_eq_false (fun inside => ?_)
  have same : (CodePoint.of_char character).val = character.toNat := rfl
  rw [same] at inside
  rcases character.valid with below | ⟨above, _⟩
  · exact absurd inside.1 (Nat.not_le.mpr below)
  · exact absurd inside.2 (Nat.not_le.mpr above)

@[simp] theorem Text.string_of_string (text : String) : (Text.of_string text).string = some text := by
  have encoded : (Text.of_string text).codes.all (fun code => !code.surrogate) = true := by
    refine List.all_eq_true.mpr (fun code listed => ?_)
    rcases List.mem_map.mp listed with ⟨character, _, rfl⟩
    rw [CodePoint.surrogate_of_char]
    rfl
  have decoded : (fun code : CodePoint => Char.ofNat code.val) ∘ CodePoint.of_char = id := by
    funext character
    exact Char.ofNat_toNat character
  rw [Text.string, if_pos encoded, Text.of_string, List.map_map, decoded, List.map_id, String.ofList_toList]

theorem Text.of_string_injective {text other : String} (same : Text.of_string text = Text.of_string other) :
    text = other := by
  have decoded := congrArg Text.string same
  rw [Text.string_of_string, Text.string_of_string] at decoded
  exact Option.some.inj decoded

/-- `text.startswith(start)`. -/
def Text.startswith (text : Text) (start : String) : Bool :=
  (Text.of_string start).codes.isPrefixOf text.codes

/-- The exceptions of the program, with the data their messages show. -/
inductive Error where
  | valueError (message : String)
  | typeError (message : String)
  /-- `decimal.InvalidOperation`, which is not a `ValueError`. -/
  | invalidOperation
  | invalidPaymentData (message : String)
  | idempotencyConflict (idempotency_key : String)
  | paymentNotFound (payment_id : UUID)
  | invalidStateTransition (current target : String)
  /-- `RuntimeError('Version conflict finalizing payment ...')`. -/
  | versionConflict (payment_id : UUID)
  | runtimeError (message : String)
  | keyError (key : String)
  /-- An exception of the HTTP client that is not an `httpx.HTTPError`. -/
  | httpClient (message : String)
  /-- The database refuses a row: a constraint or a value out of range. -/
  | databaseRefused
  | multipleResultsFound
  | zeroDivision
  /-- `OverflowError`: a duration or a point in time out of range. -/
  | overflowError
  /-- Any other failure of an awaited call: a lost connection, a timeout, a
  failing service. -/
  | infrastructure
  /-- `asyncio.CancelledError`, which `except Exception` does not catch. -/
  | cancelled
  deriving DecidableEq, Repr

/-! ## Decimal numbers -/

/-- A `decimal.Decimal`: sign, coefficient and exponent, or a special value. -/
inductive Decimal where
  | finite (negative : Bool) (coefficient : Nat) (exponent : Int)
  | infinity (negative : Bool)
  | nan (signaling : Bool)
  deriving DecidableEq, Repr

namespace Decimal

/-- The number a finite decimal stands for. -/
def value : Decimal -> Option Rat
  | .finite negative coefficient exponent =>
      let scale : Nat := 10 ^ exponent.natAbs
      let magnitude : Rat := if 0 ≤ exponent then (coefficient * scale : Nat) else mkRat coefficient scale
      some (if negative then -magnitude else magnitude)
  | _ => none

/-- `amount <= 0`.  An ordered comparison with a NaN signals. -/
def nonpositive : Decimal -> Except Error Bool
  | .finite negative coefficient _ => .ok (negative || coefficient == 0)
  | .infinity negative => .ok negative
  | .nan _ => .error .invalidOperation

/-- The number of digits the default context keeps. -/
def precision : Nat := 28

/-- `amount.quantize(Decimal('0.01'))`: round half to even at two decimals and
signal when the result has more digits than the context keeps. -/
def quantize_cents : Decimal -> Except Error Decimal
  | .finite negative coefficient exponent =>
      let cents :=
        if -2 ≤ exponent then coefficient * 10 ^ (exponent + 2).toNat
        else
          let divisor := 10 ^ (-2 - exponent).toNat
          let quotient := coefficient / divisor
          let double := 2 * (coefficient % divisor)
          if divisor < double ∨ divisor = double ∧ quotient % 2 = 1 then quotient + 1 else quotient
      if cents < 10 ^ precision then .ok (.finite negative cents (-2)) else .error .invalidOperation
  | .infinity _ => .error .invalidOperation
  | .nan true => .error .invalidOperation
  | .nan false => .ok (.nan false)

end Decimal

/-! ## Money -/

inductive Currency where
  | RUB
  | USD
  | EUR
  deriving DecidableEq, Repr

def Currency.value : Currency -> String
  | .RUB => "RUB"
  | .USD => "USD"
  | .EUR => "EUR"

/-- `Currency(text)`; the error shows a name without quotes or escapes as `repr` does. -/
def Currency.parse (text : String) : Except Error Currency :=
  if text = "RUB" then .ok .RUB
  else if text = "USD" then .ok .USD
  else if text = "EUR" then .ok .EUR
  else .error (.valueError ("'" ++ text ++ "' is not a valid Currency"))

/-- The checks of `Money.__init__` on an amount that is already a `Decimal`. -/
def Money.check (amount : Decimal) : Except Error Unit := do
  if ← amount.nonpositive then
    throw (.valueError "Amount must be positive")
  let rounded ← amount.quantize_cents
  if amount.value ≠ rounded.value then
    throw (.valueError "Amount must have at most 2 decimal places")

structure Money where
  amount : Decimal
  currency : Currency
  checked : Money.check amount = .ok ()
  deriving DecidableEq

/-- `Money(amount, currency)`. -/
def Money.new (amount : Decimal) (currency : String) : Except Error Money :=
  match checked : Money.check amount with
  | .ok () => (Currency.parse currency).map (fun currency => ⟨amount, currency, checked⟩)
  | .error error => .error error

/-! ## Idempotency keys -/

/-- `re.match(r'^[\x21-\x7E]+$', text)`.  The dollar sign also matches just
before a final newline. -/
def matches_valid_key_re (text : String) : Bool :=
  let characters := text.toList
  let body := if characters.getLast? = some '\n' then characters.dropLast else characters
  !body.isEmpty && body.all (fun character => 0x21 ≤ character.toNat && character.toNat ≤ 0x7E)

def IdempotencyKey.MAX_LENGTH : Nat := 255

def IdempotencyKey.check (value : String) : Except Error Unit := do
  if value.length = 0 then
    throw (.valueError "Idempotency key must not be empty")
  if IdempotencyKey.MAX_LENGTH < value.length then
    throw (.valueError "Idempotency key must not exceed 255 characters")
  if !matches_valid_key_re value then
    throw (.valueError "Idempotency key must contain only printable ASCII (no whitespace)")

structure IdempotencyKey where
  value : String
  checked : IdempotencyKey.check value = .ok ()
  deriving DecidableEq

/-- `IdempotencyKey(value)`. -/
def IdempotencyKey.new (value : String) : Except Error IdempotencyKey :=
  match checked : IdempotencyKey.check value with
  | .ok () => .ok ⟨value, checked⟩
  | .error error => .error error

/-- `__str__`. -/
def IdempotencyKey.str (key : IdempotencyKey) : String := key.value

/-- `__eq__`. -/
def IdempotencyKey.eq (key other : IdempotencyKey) : Bool := key.value == other.value

/-- Reloading a stored key gives the same key. -/
theorem IdempotencyKey.new_value (key : IdempotencyKey) : IdempotencyKey.new key.value = .ok key := by
  unfold IdempotencyKey.new
  split
  · rfl
  · next error failed =>
      rw [key.checked] at failed
      cases failed

theorem IdempotencyKey.value_of_new {text : String} {key : IdempotencyKey}
    (built : IdempotencyKey.new text = .ok key) : key.value = text := by
  unfold IdempotencyKey.new at built
  split at built
  · cases built
    rfl
  · cases built

/-! ## Retry policy -/

/-- How often and with which delay a webhook delivery is retried. -/
structure RetryPolicy where
  max_attempts : Int
  base_delay : Seconds
  at_least_one : 1 ≤ max_attempts
  nonnegative : base_delay.negative = false

/-- The policy of the default settings. -/
def RetryPolicy.of_defaults : RetryPolicy :=
  ⟨3, .finite 1, by decide, by decide⟩

/-- The checks of `RetryPolicy.__post_init__`. -/
def RetryPolicy.new (max_attempts : Int) (base_delay : Seconds) : Except Error RetryPolicy :=
  if at_least_one : max_attempts < 1 then
    .error (.valueError "max_attempts must be at least 1")
  else if nonnegative : base_delay.negative = true then
    .error (.valueError "base_delay must be non-negative")
  else .ok ⟨max_attempts, base_delay, Int.not_lt.mp at_least_one, Bool.not_eq_true _ ▸ nonnegative⟩

def RetryPolicy.should_retry (policy : RetryPolicy) (attempt : Nat) : Bool :=
  decide ((attempt : Int) < policy.max_attempts)

/-- The seconds of `10 ** 9` days; a `timedelta` is shorter. -/
def timedelta_limit : Rat := 86400000000000

/-- The end of the year 9999, and of the range of `datetime`. -/
def datetime_limit : Datetime := 253402300800

/-- The delay grows linearly: `base_delay` times the number of the failed attempt. -/
def RetryPolicy.next_retry_at (policy : RetryPolicy) (attempt : Nat) (now : Datetime) : Except Error Datetime :=
  match policy.base_delay with
  | .finite delay =>
      if delay * attempt < timedelta_limit ∧ now + delay * attempt < datetime_limit then .ok (now + delay * attempt)
      else .error .overflowError
  | .infinity _ =>
      -- Infinity times 0 is a NaN.
      if attempt = 0 then .error (.valueError "cannot convert float NaN to integer") else .error .overflowError
  | .nan => .error (.valueError "cannot convert float NaN to integer")

end Domain
end Payments
