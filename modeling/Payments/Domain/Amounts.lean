import Mathlib.Data.Nat.Log
import Payments.Domain.ValueObjects

namespace Payments
namespace Domain

/-!
# Amounts as callers give them

`Money` takes a `Decimal`, an integer, a text or a float.  An integer and a
text go through the constructor `Decimal(amount)`, and a float through the
text that shows it.
-/

/-! ## Texts read as decimals -/

/-- `str.isspace` of one character. -/
def is_space (character : Char) : Bool :=
  let code := character.toNat
  decide (0x09 ≤ code ∧ code ≤ 0x0D ∨ 0x1C ≤ code ∧ code ≤ 0x20 ∨ 0x2000 ≤ code ∧ code ≤ 0x200A ∨
    code ∈ [0x85, 0xA0, 0x1680, 0x2028, 0x2029, 0x202F, 0x205F, 0x3000])

/-- The zeros of the decimal digits of Unicode; the other digits follow theirs. -/
def decimal_zeros : List Nat :=
  [0x30, 0x660, 0x6F0, 0x7C0, 0x966, 0x9E6, 0xA66, 0xAE6, 0xB66, 0xBE6, 0xC66, 0xCE6, 0xD66, 0xDE6, 0xE50,
    0xED0, 0xF20, 0x1040, 0x1090, 0x17E0, 0x1810, 0x1946, 0x19D0, 0x1A80, 0x1A90, 0x1B50, 0x1BB0, 0x1C40,
    0x1C50, 0xA620, 0xA8D0, 0xA900, 0xA9D0, 0xA9F0, 0xAA50, 0xABF0, 0xFF10, 0x104A0, 0x10D30, 0x11066, 0x110F0,
    0x11136, 0x111D0, 0x112F0, 0x11450, 0x114D0, 0x11650, 0x116C0, 0x11730, 0x118E0, 0x11950, 0x11C50, 0x11D50,
    0x11DA0, 0x11F50, 0x16A60, 0x16AC0, 0x16B50, 0x1D7CE, 0x1D7D8, 0x1D7E2, 0x1D7EC, 0x1D7F6, 0x1E140, 0x1E2F0,
    0x1E4F0, 0x1E950, 0x1FBF0]

/-- The value of a decimal digit. -/
def decimal_digit (character : Char) : Option Nat :=
  (decimal_zeros.find? (fun start => decide (start ≤ character.toNat ∧ character.toNat ≤ start + 9))).map
    (fun start => character.toNat - start)

/-- The digits in front, and what follows them. -/
def leading_digits : List Char -> List Nat × List Char
  | [] => ([], [])
  | character :: rest =>
      match decimal_digit character with
      | some digit => (digit :: (leading_digits rest).1, (leading_digits rest).2)
      | none => ([], character :: rest)

def number_of_digits (digits : List Nat) : Nat :=
  digits.foldl (fun number digit => 10 * number + digit) 0

/-- Whether a minus sign is in front, and what follows the sign. -/
def leading_sign : List Char -> Bool × List Char
  | '-' :: rest => (true, rest)
  | '+' :: rest => (false, rest)
  | rest => (false, rest)

/-- `[indicator [sign] digits]` up to the end of the text. -/
def exponent_part : List Char -> Option Int
  | [] => some 0
  | indicator :: rest =>
      if indicator = 'e' ∨ indicator = 'E' then
        match leading_digits (leading_sign rest).2 with
        | ([], _) => none
        | (digits, []) =>
            some (if (leading_sign rest).1 then -(number_of_digits digits : Int) else number_of_digits digits)
        | _ => none
      else none

namespace Decimal

/-- Surrounding whitespace and all underscores are ignored. -/
def significant (text : String) : List Char :=
  let stripped := ((text.toList.dropWhile is_space).reverse.dropWhile is_space).reverse
  stripped.filter (fun character => character != '_')

/-- `digits ['.' [digits]]` or `'.' digits`, with an exponent. -/
def numeric (negative : Bool) (text : List Char) : Option Decimal :=
  let whole := leading_digits text
  let fraction :=
    match whole.2 with
    | '.' :: rest => leading_digits rest
    | rest => ([], rest)
  if whole.1 = [] ∧ fraction.1 = [] then none
  else
    (exponent_part fraction.2).map (fun exponent =>
      .finite negative (number_of_digits (whole.1 ++ fraction.1)) (exponent - (fraction.1.length : Int)))

/-- The decimal that a text shows, of any magnitude. -/
def read (text : String) : Option Decimal :=
  let signed := leading_sign (significant text)
  match signed.2.map Char.toLower with
  | ['i', 'n', 'f'] => some (.infinity signed.1)
  | ['i', 'n', 'f', 'i', 'n', 'i', 't', 'y'] => some (.infinity signed.1)
  | 'n' :: 'a' :: 'n' :: payload => if (leading_digits payload).2 = [] then some (.nan false) else none
  | 's' :: 'n' :: 'a' :: 'n' :: payload => if (leading_digits payload).2 = [] then some (.nan true) else none
  | _ => numeric signed.1 signed.2

def MAX_PREC : Nat := 999999999999999999

def MAX_EMAX : Int := 999999999999999999

def MIN_ETINY : Int := -1999999999999999997

/-- The decimals that the constructor can represent exactly. -/
def representable : Decimal -> Bool
  | .finite _ coefficient exponent =>
      decide (MIN_ETINY ≤ exponent ∧ exponent + (Nat.log 10 coefficient : Int) ≤ MAX_EMAX ∧
        Nat.log 10 coefficient < MAX_PREC)
  | _ => true

/-- `Decimal(text)`. -/
def of_text (text : String) : Except Error Decimal :=
  match read text with
  | some decimal => if decimal.representable then .ok decimal else .error .invalidOperation
  | none => .error .invalidOperation

/-- `Decimal(number)` of an integer. -/
def of_int (number : Int) : Decimal :=
  .finite (decide (number < 0)) number.natAbs 0

/-! ### The default context -/

def EMAX : Int := 999999

/-- The least exponent of the context, `Emin - prec + 1`. -/
def ETINY : Int := -1000026

/-- The coefficient without its last digits, rounded half to even. -/
def rounded (coefficient dropped : Nat) : Nat :=
  let divisor := 10 ^ dropped
  let quotient := coefficient / divisor
  let double := 2 * (coefficient % divisor)
  if divisor < double ∨ divisor = double ∧ quotient % 2 = 1 then quotient + 1 else quotient

/-- The coefficient without its last zeros, at most so many of them, and their number. -/
def without_zeros : Nat -> Nat -> Nat × Nat
  | 0, coefficient => (coefficient, 0)
  | most + 1, coefficient =>
      if coefficient % 10 = 0 then
        match without_zeros most (coefficient / 10) with
        | (rest, zeros) => (rest, zeros + 1)
      else (coefficient, 0)

/-- `amount.normalize()`, or nothing where the context signals: the amount is rounded
to the digits and the exponents of the context and loses its trailing zeros. -/
def normalize : Decimal -> Option Decimal
  | .finite negative coefficient exponent =>
      let dropped := max (Nat.log 10 coefficient + 1 - precision) (ETINY - exponent).toNat
      let kept := rounded coefficient dropped
      if kept = 0 then some (.finite negative 0 0)
      else if EMAX < exponent + (dropped : Int) + (Nat.log 10 kept : Int) then none
      else
        let stripped := without_zeros (Nat.log 10 kept) kept
        some (.finite negative stripped.1 (exponent + (dropped : Int) + (stripped.2 : Int)))
  | .nan true => none
  | amount => some amount

/-- The digits behind the point. -/
def decimal_places : Decimal -> Nat
  | .finite _ _ exponent => (-exponent).toNat
  | _ => 0

end Decimal

/-! ## The constructor of money -/

/-- An argument of `Money`.  A float is given by `Decimal(str(amount))`. -/
inductive Amount where
  | decimal (amount : Decimal)
  | int (amount : Int)
  | str (amount : String)
  | float (shown : Decimal)

namespace Amount

/-- The decimal that `Money.__init__` goes on with; `repr` shows a text. -/
def to_decimal (repr : String -> String) : Amount -> Except Error Decimal
  | .decimal amount => .ok amount
  | .float shown => .ok shown
  | .int amount => .ok (Decimal.of_int amount)
  | .str amount =>
      match Decimal.of_text amount with
      | .error .invalidOperation => .error (.valueError ("Invalid amount: " ++ repr amount))
      | converted => converted

end Amount

/-- `Money(amount, currency)` for an amount of any of these types. -/
def Money.of (repr : String -> String) (amount : Amount) (currency : String) : Except Error Money := do
  let amount ← amount.to_decimal repr
  Money.new amount currency

end Domain
end Payments
