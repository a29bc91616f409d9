import Mathlib.Algebra.Order.Field.Power
import Mathlib.Algebra.Order.Field.Rat
import Mathlib.Data.Nat.Cast.Field
import Mathlib.Tactic.FieldSimp
import Mathlib.Tactic.LinearCombination
import Mathlib.Tactic.Linarith
import Mathlib.Tactic.Ring
import Payments.Application.Handlers
import Payments.Domain.Amounts

namespace Payments
namespace Properties

open Concurrency Domain Infrastructure Application Prog UnitOfWork

/-!
# What the value objects accept

`IdempotencyKey` should accept the printable texts of at most 255 characters,
and `Money` the positive multiples of a hundredth in a known currency.  Each
does so for all arguments but one kind: the texts with a newline at the end,
and the amounts for which `decimal` itself raises.
-/

/-! ## Idempotency keys -/

def printable (character : Char) : Bool :=
  0x21 ≤ character.toNat && character.toNat ≤ 0x7E

/-- Between 1 and 255 characters, all of them printable. -/
def KeyLanguage (text : String) : Prop :=
  1 ≤ text.length ∧ text.length ≤ 255 ∧
    forall character, character ∈ text.toList -> printable character = true

/-- A text of the language, one character shorter than the limit, with a newline behind it. -/
def Newlined (text body : String) : Prop :=
  KeyLanguage body ∧ body.length ≤ 254 ∧ text.toList = body.toList ++ ['\n']

/-- The handler reads the clock and refuses the command. -/
def Refuses (command : CreatePaymentCommand) (message : String) : Prop :=
  CreatePaymentHandler.handle command =
    transactional true (do
      let _ : Datetime ← await .now
      .raise (.invalidPaymentData message))

/-- What `IdempotencyKey(text)` should do. -/
structure KeyContract (text : String) : Prop where
  accepts : (Exists fun key => IdempotencyKey.new text = .ok key) <-> KeyLanguage text
  shows : forall key, IdempotencyKey.new text = .ok key -> key.str = text
  equality : forall key other text', IdempotencyKey.new text = .ok key -> IdempotencyKey.new text' = .ok other ->
    (key.eq other = true <-> text = text')
  refuses : forall error, IdempotencyKey.new text = .error error -> Exists fun message => error = .valueError message
  reports : forall command : CreatePaymentCommand, command.idempotency_key = text -> ¬ KeyLanguage text ->
    Exists fun message => Refuses command message

theorem key_check (text : String) : IdempotencyKey.check text =
    if text.length = 0 then .error (.valueError "Idempotency key must not be empty")
    else if IdempotencyKey.MAX_LENGTH < text.length then
      .error (.valueError "Idempotency key must not exceed 255 characters")
    else if matches_valid_key_re text = false then
      .error (.valueError "Idempotency key must contain only printable ASCII (no whitespace)")
    else .ok () := by
  unfold IdempotencyKey.check
  by_cases empty : text.length = 0
  · simp only [empty, if_true]
    rfl
  · by_cases long : IdempotencyKey.MAX_LENGTH < text.length
    · simp only [empty, long, if_true, if_false]
      rfl
    · cases printable : matches_valid_key_re text <;> simp only [empty, long, if_false] <;> rfl

theorem key_error {text : String} {error : Error} (failed : IdempotencyKey.check text = .error error) :
    Exists fun message => error = .valueError message := by
  rw [key_check] at failed
  split at failed
  · cases failed
    exact ⟨_, rfl⟩
  · split at failed
    · cases failed
      exact ⟨_, rfl⟩
    · split at failed
      · cases failed
        exact ⟨_, rfl⟩
      · cases failed

theorem key_new_error {text : String} {error : Error} (failed : IdempotencyKey.check text = .error error) :
    IdempotencyKey.new text = .error error := by
  unfold IdempotencyKey.new
  split
  · next passed =>
      rw [failed] at passed
      cases passed
  · next other raised =>
      rw [failed] at raised
      cases raised
      rfl

theorem key_new_ok {text : String} (passed : IdempotencyKey.check text = .ok ()) :
    Exists fun key => IdempotencyKey.new text = .ok key ∧ key.value = text :=
  ⟨⟨text, passed⟩, IdempotencyKey.new_value ⟨text, passed⟩, rfl⟩

theorem newline_not_printable : ¬ printable '\n' = true := by decide

theorem matches_iff (text : String) : matches_valid_key_re text = true <->
    (text.toList ≠ [] ∧ forall character, character ∈ text.toList -> printable character = true) ∨
      Exists fun body => body ≠ [] ∧ (forall character, character ∈ body -> printable character = true) ∧
        text.toList = body ++ ['\n'] := by
  have spelled (body : List Char) : (!body.isEmpty && body.all printable) = true <->
      body ≠ [] ∧ forall character, character ∈ body -> printable character = true := by
    rw [Bool.and_eq_true, List.all_eq_true, Bool.not_eq_true', List.isEmpty_eq_false_iff]
  by_cases newline : text.toList.getLast? = some '\n'
  · rcases List.getLast?_eq_some_iff.mp newline with ⟨before, split⟩
    have found : matches_valid_key_re text = (!before.isEmpty && before.all printable) := by
      simp only [matches_valid_key_re, newline, if_true]
      rw [split, List.dropLast_concat]
      rfl
    rw [found, spelled]
    constructor
    · intro body
      exact .inr ⟨before, body.1, body.2, split⟩
    · rintro (⟨_, every⟩ | ⟨body, nonempty, every, same⟩)
      · refine absurd (every '\n' ?_) newline_not_printable
        rw [split]
        exact List.mem_concat_self
      · cases List.append_cancel_right (split.symm.trans same)
        exact ⟨nonempty, every⟩
  · have found : matches_valid_key_re text = (!text.toList.isEmpty && text.toList.all printable) := by
      simp only [matches_valid_key_re, newline, if_false]
      rfl
    rw [found, spelled]
    constructor
    · exact .inl
    · rintro (whole | ⟨body, _, _, split⟩)
      · exact whole
      · refine absurd ?_ newline
        rw [split]
        exact List.getLast?_concat

/-- The accepted texts: the language, and its texts with a newline behind them. -/
theorem key_accepted_iff (text : String) : IdempotencyKey.check text = .ok () <->
    KeyLanguage text ∨ Exists (Newlined text) := by
  have counted : text.toList.length = text.length := String.length_toList
  have passes : IdempotencyKey.check text = .ok () <->
      text.length ≠ 0 ∧ text.length ≤ 255 ∧ matches_valid_key_re text = true := by
    rw [key_check]
    by_cases empty : text.length = 0
    · simp [empty]
    · by_cases long : IdempotencyKey.MAX_LENGTH < text.length
      · have long' : ¬ text.length ≤ 255 := Nat.not_le.mpr long
        simp [empty, long, long']
      · have short : text.length ≤ 255 := Nat.not_lt.mp long
        cases found : matches_valid_key_re text <;> simp [empty, long, short]
  rw [passes, matches_iff]
  constructor
  · rintro ⟨nonempty, short, ⟨_, every⟩ | ⟨body, filled, every, split⟩⟩
    · exact .inl ⟨Nat.pos_of_ne_zero nonempty, short, every⟩
    · have length := congrArg List.length split
      rw [counted, List.length_append] at length
      have positive := List.length_pos_iff.mpr filled
      have size : (String.ofList body).length = body.length := by rw [← String.length_toList, String.toList_ofList]
      refine .inr ⟨String.ofList body, ⟨by omega, by omega, ?_⟩, ?_, ?_⟩
      · rw [String.toList_ofList]
        exact every
      · rw [List.length_singleton] at length
        omega
      · rw [String.toList_ofList]
        exact split
  · rintro (⟨long, short, every⟩ | ⟨body, ⟨long, _, every⟩, short, split⟩)
    · refine ⟨by omega, short, .inl ⟨?_, every⟩⟩
      intro empty
      rw [empty] at counted
      exact absurd counted.symm (Nat.ne_of_gt long)
    · have length := congrArg List.length split
      have size : body.toList.length = body.length := String.length_toList
      rw [counted, List.length_append, size] at length
      have length : text.length = body.length + 1 := length
      refine ⟨by omega, by omega, .inr ⟨body.toList, ?_, every, split⟩⟩
      exact List.length_pos_iff.mp (size ▸ long)

theorem Newlined.not_language {text body : String} (newlined : Newlined text body) : ¬ KeyLanguage text := by
  intro language
  refine absurd (language.2.2 '\n' ?_) newline_not_printable
  rw [newlined.2.2]
  exact List.mem_concat_self

theorem key_new_iff (text : String) :
    (Exists fun key => IdempotencyKey.new text = .ok key) <-> IdempotencyKey.check text = .ok () := by
  constructor
  · rintro ⟨key, built⟩
    have named := IdempotencyKey.value_of_new built
    exact named ▸ key.checked
  · intro passed
    rcases key_new_ok passed with ⟨key, built, _⟩
    exact ⟨key, built⟩

theorem key_new_refused {text : String} {error : Error} (failed : IdempotencyKey.new text = .error error) :
    Exists fun message => error = .valueError message := by
  cases checked : IdempotencyKey.check text with
  | ok _ =>
      rcases key_new_ok checked with ⟨key, built, _⟩
      rw [built] at failed
      cases failed
  | error raised =>
      rw [key_new_error checked] at failed
      cases failed
      exact key_error checked

/-- A validation that fails with `InvalidPaymentData` ends the handler. -/
theorem refuses_of_validated {command : CreatePaymentCommand} {message : String}
    (failed : CreatePaymentHandler.validated command = .error (.invalidPaymentData message)) :
    Refuses command message := by
  have ended : CreatePaymentHandler.body command = (do
      let _ : Datetime ← await .now
      .raise (.invalidPaymentData message)) := by
    rw [CreatePaymentHandler.body, failed]
    rfl
  exact congrArg (transactional true) ended

theorem validated_of_key {command : CreatePaymentCommand} {message : String}
    (failed : IdempotencyKey.new command.idempotency_key = .error (.valueError message)) :
    CreatePaymentHandler.validated command = .error (.invalidPaymentData message) := by
  simp only [CreatePaymentHandler.validated, failed]
  rfl

/-- Every key is treated as it should be, apart from a text with a newline at
its end, and two texts that differ in other characters only are both accepted
exactly when one of them is the other with such a newline. -/
theorem key_contract_iff (text : String) :
    (KeyContract text <-> ¬ Exists (Newlined text)) ∧
    forall text' : String, text ≠ text' -> text.toList.filter printable = text'.toList.filter printable ->
      ((Exists fun key => IdempotencyKey.new text = .ok key) ∧
          (Exists fun key => IdempotencyKey.new text' = .ok key) <->
        Newlined text text' ∨ Newlined text' text) := by
  constructor
  · constructor
    · rintro contract ⟨body, newlined⟩
      refine newlined.not_language (contract.accepts.mp ?_)
      exact (key_new_iff text).mpr ((key_accepted_iff text).mpr (.inr ⟨body, newlined⟩))
    · intro plain
      have accepts : (Exists fun key => IdempotencyKey.new text = .ok key) <-> KeyLanguage text := by
        rw [key_new_iff, key_accepted_iff]
        exact or_iff_left plain
      refine ⟨accepts, fun key built => IdempotencyKey.value_of_new built, ?_, fun error => key_new_refused, ?_⟩
      · intro key other text' built built'
        rw [IdempotencyKey.eq, beq_iff_eq, IdempotencyKey.value_of_new built, IdempotencyKey.value_of_new built']
      · intro command named outside
        cases built : IdempotencyKey.new text with
        | ok key => exact absurd (accepts.mp ⟨key, built⟩) outside
        | error error =>
            rcases key_new_refused built with ⟨message, rfl⟩
            exact ⟨message, refuses_of_validated (validated_of_key (named ▸ built))⟩
  · intro text' different same
    have whole {text : String} (language : KeyLanguage text) : text.toList.filter printable = text.toList :=
      List.filter_eq_self.mpr language.2.2
    have shortened {text body : String} (newlined : Newlined text body) :
        text.toList.filter printable = body.toList := by
      rw [newlined.2.2, List.filter_append, whole newlined.1]
      exact List.append_nil _
    have equal {one other : String} (lists : one.toList = other.toList) : one = other :=
      String.toList_injective lists
    rw [key_new_iff, key_new_iff, key_accepted_iff, key_accepted_iff]
    constructor
    · rintro ⟨language | ⟨body, newlined⟩, language' | ⟨body', newlined'⟩⟩
      · exact absurd (equal (whole language ▸ same.trans (whole language'))) different
      · have body_eq : text = body' := equal (whole language ▸ same.trans (shortened newlined'))
        exact .inr (body_eq ▸ newlined')
      · have body_eq : body = text' := equal (shortened newlined ▸ same.trans (whole language'))
        exact .inl (body_eq ▸ newlined)
      · have bodies : body = body' := equal (shortened newlined ▸ same.trans (shortened newlined'))
        refine absurd (equal ?_) different
        rw [newlined.2.2, newlined'.2.2, bodies]
    · rintro (newlined | newlined)
      · exact ⟨.inr ⟨text', newlined⟩, .inl newlined.1⟩
      · exact ⟨.inl newlined.1, .inr ⟨text, newlined⟩⟩

/-- The key of a header value that was read with its line end is accepted. -/
theorem newline_key_accepted : ¬ KeyContract "order-1\n" := by
  intro contract
  have accepted : IdempotencyKey.check "order-1\n" = .ok () := by decide +kernel
  have language := contract.accepts.mp ((key_new_iff _).mpr accepted)
  exact absurd (language.2.2 '\n' (by decide)) newline_not_printable

/-! ## Amounts -/

/-- The decimal that an argument stands for, of any magnitude. -/
def reading : Amount -> Option Decimal
  | .decimal amount => some amount
  | .int amount => some (Decimal.of_int amount)
  | .str amount => Decimal.read amount
  | .float shown => some shown

/-- The number that an argument stands for. -/
def number : Amount -> Option Rat
  | .decimal amount => amount.value
  | .int amount => some amount
  | .str amount => (Decimal.read amount).bind Decimal.value
  | .float shown => shown.value

/-- A finite positive multiple of a hundredth, in a known currency. -/
def Acceptable (amount : Amount) (currency : String) : Prop :=
  (Exists fun value => number amount = some value ∧ 0 < value ∧ Exists fun cents : Int => value = cents / 100) ∧
    currency ∈ ["RUB", "USD", "EUR"]

/-- What `Money(amount, currency)` and the handler should do. -/
structure MoneyContract (repr : String -> String) (amount : Amount) (currency : String) : Prop where
  accepts : (Exists fun money => Money.of repr amount currency = .ok money) <-> Acceptable amount currency
  equal : forall money, Money.of repr amount currency = .ok money ->
    money.amount.value = number amount ∧ money.currency.value = currency
  refuses : forall error, Money.of repr amount currency = .error error ->
    Exists fun message => error = .valueError message
  reports : forall command : CreatePaymentCommand, amount = .decimal command.amount -> currency = command.currency ->
    (¬ Acceptable amount currency -> Exists fun message => Refuses command message) ∧
      forall error, CreatePaymentHandler.validated command = .error error ->
        Exists fun message => error = .invalidPaymentData message

/-- A decimal on which neither the comparison nor `quantize` signals. -/
def quiet : Decimal -> Prop
  | .finite negative coefficient exponent =>
      negative = true ∨ Exists fun value =>
        (Decimal.finite negative coefficient exponent).value = some value ∧ value < 10 ^ 26 - 1 / 200
  | .infinity negative => negative = true
  | .nan _ => False

/-- Whether the constructor `Decimal` can represent what is read. -/
def in_range : Amount -> Bool
  | .str amount => (Decimal.read amount).all Decimal.representable
  | _ => true

/-- No step of the constructor signals, and no acceptable amount is written with
an exponent that `Decimal` cannot represent. -/
def Unsignaled (amount : Amount) (currency : String) : Prop :=
  forall decimal, reading amount = some decimal ->
    (in_range amount = true -> quiet decimal) ∧ (in_range amount = false -> ¬ Acceptable amount currency)

/-! ### Rounding to cents -/

/-- The number of cents that `quantize` rounds to. -/
def rounded_cents (coefficient : Nat) (exponent : Int) : Nat :=
  if -2 ≤ exponent then coefficient * 10 ^ (exponent + 2).toNat
  else
    let divisor := 10 ^ (-2 - exponent).toNat
    let quotient := coefficient / divisor
    let double := 2 * (coefficient % divisor)
    if divisor < double ∨ divisor = double ∧ quotient % 2 = 1 then quotient + 1 else quotient

theorem quantize_finite (negative : Bool) (coefficient : Nat) (exponent : Int) :
    (Decimal.finite negative coefficient exponent).quantize_cents =
      if rounded_cents coefficient exponent < 10 ^ Decimal.precision then
        .ok (.finite negative (rounded_cents coefficient exponent) (-2))
      else .error .invalidOperation := rfl

theorem value_eq_zpow (coefficient : Nat) (exponent : Int) :
    (Decimal.finite false coefficient exponent).value = some ((coefficient : Rat) * 10 ^ exponent) := by
  simp only [Decimal.value, Bool.false_eq_true, if_false, Option.some.injEq]
  by_cases above : 0 ≤ exponent
  · have same : (exponent.natAbs : Int) = exponent := Int.natAbs_of_nonneg above
    rw [if_pos above, ← same, zpow_natCast, Int.natAbs_natCast]
    push_cast
    rfl
  · have same : exponent = -(exponent.natAbs : Int) := by omega
    rw [if_neg above, Rat.mkRat_eq_div]
    conv_rhs => rw [same, zpow_neg, zpow_natCast]
    push_cast
    rfl

theorem value_of_cents (cents : Nat) : (Decimal.finite false cents (-2)).value = some ((cents : Rat) / 100) := by
  rw [value_eq_zpow]
  norm_num [zpow_neg, div_eq_mul_inv]

theorem value_of_shift {coefficient : Nat} {exponent : Int} (small : -2 ≤ exponent) :
    (Decimal.finite false coefficient exponent).value =
      some (((coefficient * 10 ^ (exponent + 2).toNat : Nat) : Rat) / 100) := by
  have same : ((exponent + 2).toNat : Int) = exponent + 2 := Int.toNat_of_nonneg (by omega)
  have power : (10 : Rat) ^ (exponent + 2).toNat = 10 ^ exponent * 100 := by
    rw [← zpow_natCast, same, zpow_add₀ (by norm_num)]
    norm_num
  rw [value_eq_zpow]
  push_cast
  rw [power]
  congr 1
  ring

theorem value_of_scale (coefficient : Nat) {exponent : Int} (small : ¬ -2 ≤ exponent) :
    (Decimal.finite false coefficient exponent).value =
      some ((coefficient : Rat) / ((10 ^ (-2 - exponent).toNat : Nat) : Rat) / 100) := by
  have same : ((-2 - exponent).toNat : Int) = -2 - exponent := Int.toNat_of_nonneg (by omega)
  have power : (10 : Rat) ^ (-2 - exponent).toNat * 100 * 10 ^ exponent = 1 := by
    rw [← zpow_natCast, same, show (100 : Rat) = 10 ^ (2 : Int) by norm_num, ← zpow_add₀ (by norm_num),
      ← zpow_add₀ (by norm_num), show -2 - exponent + 2 + exponent = 0 by ring, zpow_zero]
  rw [value_eq_zpow, div_div, Option.some.injEq]
  push_cast
  rw [eq_div_iff (by positivity), mul_assoc, mul_comm (10 ^ exponent : Rat), power, mul_one]

/-- Rounding half to even stays below an even bound exactly below half a step before it. -/
theorem half_even_below {quotient rest divisor bound : Nat} (remainder : rest < divisor)
    (even : bound % 2 = 0) (positive : 0 < bound) :
    (if divisor < 2 * rest ∨ divisor = 2 * rest ∧ quotient % 2 = 1 then quotient + 1 else quotient) < bound <->
      2 * (quotient * divisor + rest) < divisor * (2 * bound - 1) := by
  rcases Nat.lt_trichotomy (quotient + 1) bound with below | last | above
  · have rounded : (if divisor < 2 * rest ∨ divisor = 2 * rest ∧ quotient % 2 = 1 then quotient + 1 else quotient) <
        bound := by split <;> omega
    refine iff_of_true rounded ?_
    have room : divisor * (2 * (quotient + 1) + 1) ≤ divisor * (2 * bound - 1) := Nat.mul_le_mul_left _ (by omega)
    calc 2 * (quotient * divisor + rest) < divisor * (2 * (quotient + 1) + 1) := by nlinarith
      _ ≤ divisor * (2 * bound - 1) := room
  · have odd : quotient % 2 = 1 := by omega
    have width : divisor * (2 * bound - 1) = 2 * (quotient * divisor) + divisor := by
      rw [← last, show 2 * (quotient + 1) - 1 = 2 * quotient + 1 by omega]
      ring
    rw [width]
    split <;> omega
  · have rounded : ¬ (if divisor < 2 * rest ∨ divisor = 2 * rest ∧ quotient % 2 = 1 then quotient + 1 else quotient) <
        bound := by split <;> omega
    refine iff_of_false rounded (not_lt.mpr ?_)
    calc divisor * (2 * bound - 1) ≤ divisor * (2 * quotient) := Nat.mul_le_mul_left _ (by omega)
      _ ≤ 2 * (quotient * divisor + rest) := by nlinarith

variable {coefficient : Nat} {exponent : Int} {value : Rat}

theorem rounded_below_iff (found : (Decimal.finite false coefficient exponent).value = some value) :
    rounded_cents coefficient exponent < 10 ^ Decimal.precision <-> value < 10 ^ 26 - 1 / 200 := by
  by_cases whole : -2 ≤ exponent
  · rw [value_of_shift whole, Option.some.injEq] at found
    rw [rounded_cents, if_pos whole, ← found]
    generalize coefficient * 10 ^ (exponent + 2).toNat = cents
    constructor
    · intro below
      have below : (cents : Rat) + 1 ≤ 10 ^ 28 := by exact_mod_cast Nat.succ_le_of_lt below
      linarith
    · intro below
      have below : (cents : Rat) < 10 ^ 28 := by linarith
      exact_mod_cast below
  · rw [value_of_scale coefficient whole, Option.some.injEq] at found
    have positive : 0 < 10 ^ (-2 - exponent).toNat := by positivity
    rw [rounded_cents, if_neg whole, ← found]
    dsimp only
    generalize 10 ^ (-2 - exponent).toNat = divisor at positive
    have positive' : (0 : Rat) < divisor := by exact_mod_cast positive
    rw [half_even_below (Nat.mod_lt coefficient positive) (by decide) (by decide), Nat.div_add_mod',
      div_div, div_lt_iff₀ (by positivity)]
    have steps : 2 * 10 ^ Decimal.precision - 1 = 19999999999999999999999999999 := by decide
    rw [steps]
    constructor
    · intro below
      have below : 2 * (coefficient : Rat) < divisor * 19999999999999999999999999999 := by exact_mod_cast below
      linarith
    · intro below
      have below : 2 * (coefficient : Rat) < divisor * 19999999999999999999999999999 := by linarith
      exact_mod_cast below

theorem rounded_exact_iff (found : (Decimal.finite false coefficient exponent).value = some value) :
    (Exists fun cents : Int => value = cents / 100) <->
      value = ((rounded_cents coefficient exponent : Nat) : Rat) / 100 := by
  constructor
  · rintro ⟨cents, same⟩
    by_cases whole : -2 ≤ exponent
    · rw [value_of_shift whole, Option.some.injEq] at found
      rw [rounded_cents, if_pos whole, found]
    · rw [value_of_scale coefficient whole, Option.some.injEq] at found
      have positive : 0 < 10 ^ (-2 - exponent).toNat := by positivity
      rw [rounded_cents, if_neg whole, ← found]
      rw [← found] at same
      dsimp only
      generalize 10 ^ (-2 - exponent).toNat = divisor at positive same
      have nonzero : (divisor : Rat) ≠ 0 := by exact_mod_cast positive.ne'
      have product : (coefficient : Rat) = cents * divisor := by
        have quotient : (coefficient : Rat) / divisor = cents := by linarith
        exact (div_eq_iff nonzero).mp quotient
      have divides : divisor ∣ coefficient := by
        have integral : (coefficient : Int) = cents * divisor := by exact_mod_cast product
        exact Int.natCast_dvd_natCast.mp (Dvd.intro_left _ integral.symm)
      have no_rest := Nat.mod_eq_zero_of_dvd divides
      rw [if_neg (by omega), Nat.cast_div divides nonzero]
  · intro same
    refine ⟨rounded_cents coefficient exponent, ?_⟩
    rw [Int.cast_natCast]
    exact same

/-! ### The outcome of the constructor -/

theorem parse_listed {currency : String} (listed : currency ∈ ["RUB", "USD", "EUR"]) :
    Exists fun parsed => Currency.parse currency = .ok parsed ∧ parsed.value = currency := by
  simp only [List.mem_cons, List.not_mem_nil, or_false] at listed
  rcases listed with rfl | rfl | rfl
  · exact ⟨.RUB, rfl, rfl⟩
  · exact ⟨.USD, rfl, rfl⟩
  · exact ⟨.EUR, rfl, rfl⟩

theorem money_new_error {amount : Decimal} {currency : String} {error : Error}
    (failed : Money.check amount = .error error) : Money.new amount currency = .error error := by
  unfold Money.new
  split
  · next passed =>
      rw [failed] at passed
      cases passed
  · next other raised =>
      rw [failed] at raised
      cases raised
      rfl

theorem money_new_ok {amount : Decimal} {currency : String} {parsed : Currency}
    (passed : Money.check amount = .ok ()) (known : Currency.parse currency = .ok parsed) :
    Money.new amount currency = .ok ⟨amount, parsed, passed⟩ := by
  unfold Money.new
  split
  · rw [known]
    rfl
  · next other raised =>
      rw [passed] at raised
      cases raised

/-- `Money` of a decimal. -/
inductive Constructed (amount : Decimal) (currency : String) : Except Error Money -> Prop where
  | built (money : Money) (same : money.amount = amount) (named : money.currency.value = currency)
      (silent : quiet amount) (acceptable : Acceptable (.decimal amount) currency) :
      Constructed amount currency (.ok money)
  | refused (message : String) (silent : quiet amount) (unacceptable : ¬ Acceptable (.decimal amount) currency) :
      Constructed amount currency (.error (.valueError message))
  | signalled (loud : ¬ quiet amount) : Constructed amount currency (.error .invalidOperation)

theorem parse_cases (currency : String) :
    (Exists fun parsed => Currency.parse currency = .ok parsed ∧ parsed.value = currency ∧
      currency ∈ ["RUB", "USD", "EUR"]) ∨
    (Exists fun message => Currency.parse currency = .error (.valueError message)) ∧
      currency ∉ ["RUB", "USD", "EUR"] := by
  by_cases listed : currency ∈ ["RUB", "USD", "EUR"]
  · rcases parse_listed listed with ⟨parsed, parses, named⟩
    exact .inl ⟨parsed, parses, named, listed⟩
  · have others := listed
    simp only [List.mem_cons, List.not_mem_nil, or_false, not_or] at others
    refine .inr ⟨⟨"'" ++ currency ++ "' is not a valid Currency", ?_⟩, listed⟩
    rw [Currency.parse, if_neg others.1, if_neg others.2.1, if_neg others.2.2]

/-- An amount that is not positive is refused. -/
theorem constructed_nonpositive {amount : Decimal} {currency : String} (checked : amount.nonpositive = .ok true)
    (silent : quiet amount) (nonpositive : forall value, amount.value = some value -> value ≤ 0) :
    Constructed amount currency (Money.new amount currency) := by
  have failed : Money.check amount = .error (.valueError "Amount must be positive") := by
    rw [Money.check, checked]
    rfl
  rw [money_new_error failed]
  refine .refused _ silent ?_
  rintro ⟨⟨value, found, positive, _⟩, _⟩
  exact absurd (nonpositive value found) (not_le.mpr positive)

theorem constructed_signal {amount : Decimal} {currency : String} (loud : ¬ quiet amount)
    (failed : Money.check amount = .error .invalidOperation) :
    Constructed amount currency (Money.new amount currency) := by
  rw [money_new_error failed]
  exact .signalled loud

/-- A positive finite amount is rounded to cents and compared. -/
theorem constructed_positive (currency : String) (positive : 0 < coefficient) :
    Constructed (.finite false coefficient exponent) currency
      (Money.new (.finite false coefficient exponent) currency) := by
  have found := value_eq_zpow coefficient exponent
  have positive_value : (0 : Rat) < coefficient * 10 ^ exponent := by positivity
  have checked : (Decimal.finite false coefficient exponent).nonpositive = .ok false := by
    simp [Decimal.nonpositive, Nat.pos_iff_ne_zero.mp positive]
  by_cases below : rounded_cents coefficient exponent < 10 ^ Decimal.precision
  · have silent : quiet (.finite false coefficient exponent) :=
      .inr ⟨_, found, (rounded_below_iff found).mp below⟩
    by_cases whole : (coefficient : Rat) * 10 ^ exponent = ((rounded_cents coefficient exponent : Nat) : Rat) / 100
    · have passed : Money.check (.finite false coefficient exponent) = .ok () := by
        rw [Money.check, checked, quantize_finite, if_pos below]
        simp only [Bind.bind, Except.bind, found, value_of_cents, whole, ne_eq, not_true_eq_false, if_false]
        rfl
      rcases parse_cases currency with ⟨parsed, parses, named, listed⟩ | ⟨⟨message, failed⟩, unlisted⟩
      · rw [money_new_ok passed parses]
        exact .built _ rfl named silent ⟨⟨_, found, positive_value, (rounded_exact_iff found).mpr whole⟩, listed⟩
      · have refused : Money.new (.finite false coefficient exponent) currency = .error (.valueError message) := by
          unfold Money.new
          split
          · rw [failed]
            rfl
          · next other raised =>
              rw [passed] at raised
              cases raised
        rw [refused]
        exact .refused message silent (fun acceptable => unlisted acceptable.2)
    · have failed : Money.check (.finite false coefficient exponent) =
          .error (.valueError "Amount must have at most 2 decimal places") := by
        rw [Money.check, checked, quantize_finite, if_pos below]
        simp only [Bind.bind, Except.bind, found, value_of_cents, ne_eq, Option.some.injEq, whole, not_false_eq_true,
          if_true]
        rfl
      rw [money_new_error failed]
      refine .refused _ silent ?_
      rintro ⟨⟨value, found', _, cents⟩, _⟩
      exact whole ((Option.some.inj (found.symm.trans found')) ▸ (rounded_exact_iff found').mp cents)
  · refine constructed_signal ?_ ?_
    · rintro (impossible | ⟨value, found', small⟩)
      · cases impossible
      · exact below ((rounded_below_iff found').mpr small)
    · rw [Money.check, checked, quantize_finite, if_neg below]
      rfl

theorem constructed (amount : Decimal) (currency : String) :
    Constructed amount currency (Money.new amount currency) := by
  cases amount with
  | finite negative coefficient exponent =>
      cases negative with
      | true =>
          refine constructed_nonpositive rfl (.inl rfl) (fun value found => ?_)
          have magnitude := value_eq_zpow coefficient exponent
          have negated : (Decimal.finite true coefficient exponent).value =
              some (-(coefficient * 10 ^ exponent : Rat)) := by
            simp only [Decimal.value, Bool.false_eq_true, if_false, Option.some.injEq] at magnitude
            simp only [Decimal.value, if_true, magnitude]
          rw [negated, Option.some.injEq] at found
          rw [← found, neg_nonpos]
          positivity
      | false =>
          rcases Nat.eq_zero_or_pos coefficient with rfl | positive
          · have nothing : (Decimal.finite false 0 exponent).value = some 0 := by
              rw [value_eq_zpow, Nat.cast_zero, zero_mul]
            refine constructed_nonpositive rfl (.inr ⟨0, nothing, by norm_num⟩) (fun value found => ?_)
            rw [nothing, Option.some.injEq] at found
            exact found.ge
          · exact constructed_positive currency positive
  | infinity negative =>
      cases negative with
      | true => exact constructed_nonpositive rfl rfl (fun value found => by cases found)
      | false => exact constructed_signal (fun impossible => by cases impossible) rfl
  | nan signaling => exact constructed_signal (fun impossible => impossible) rfl

/-! ### Arguments of every type -/

variable {repr : String -> String} {amount : Amount} {currency : String} {decimal : Decimal}

theorem number_of_reading (read : reading amount = some decimal) : number amount = decimal.value := by
  cases amount with
  | decimal given =>
      cases read
      rfl
  | float shown =>
      cases read
      rfl
  | str text =>
      have read : Decimal.read text = some decimal := read
      rw [number, read]
      rfl
  | int given =>
      cases read
      have magnitude : (given.natAbs : Rat) = |(given : Rat)| := by rw [← Int.cast_abs, Nat.cast_natAbs]
      rcases lt_or_ge given 0 with negative | nonnegative
      · have below : (given : Rat) < 0 := by exact_mod_cast negative
        simp [number, Decimal.of_int, Decimal.value, negative, magnitude, abs_of_neg below]
      · have above : (0 : Rat) ≤ given := by exact_mod_cast nonnegative
        simp [number, Decimal.of_int, Decimal.value, not_lt.mpr nonnegative, magnitude, abs_of_nonneg above]

theorem acceptable_of_reading (read : reading amount = some decimal) :
    Acceptable amount currency <-> Acceptable (.decimal decimal) currency := by
  rw [Acceptable, Acceptable, number_of_reading read]
  rfl

theorem unacceptable_of_unread (unread : reading amount = none) : ¬ Acceptable amount currency := by
  rintro ⟨⟨value, found, _⟩, _⟩
  cases amount with
  | str text =>
      have unread : Decimal.read text = none := unread
      rw [number, unread] at found
      cases found
  | _ => cases unread

theorem to_decimal_of_reading (read : reading amount = some decimal) (inside : in_range amount = true) :
    amount.to_decimal repr = .ok decimal := by
  cases amount with
  | str text =>
      have read : Decimal.read text = some decimal := read
      rw [in_range, read] at inside
      have represented : decimal.representable = true := inside
      rw [Amount.to_decimal, Decimal.of_text, read]
      simp only [represented, if_true]
  | _ =>
      cases read
      rfl

theorem to_decimal_refused (outside : reading amount = none ∨ in_range amount = false) :
    Exists fun message => amount.to_decimal repr = .error (.valueError message) := by
  cases amount with
  | str text =>
      refine ⟨"Invalid amount: " ++ repr text, ?_⟩
      rw [Amount.to_decimal, Decimal.of_text]
      cases read : Decimal.read text with
      | none => rfl
      | some decimal =>
          rcases outside with unread | outside
          · cases read.symm.trans unread
          · rw [in_range, read] at outside
            have unrepresented : decimal.representable = false := outside
            simp only [unrepresented, Bool.false_eq_true, if_false]
  | _ => rcases outside with outside | outside <;> cases outside

/-! ### The contract -/

theorem validated_cases (command : CreatePaymentCommand) :
    (Exists fun message => CreatePaymentHandler.validated command = .error (.invalidPaymentData message)) ∨
      (Exists fun money => Money.new command.amount command.currency = .ok money) ∧
        (forall error, CreatePaymentHandler.validated command ≠ .error error) ∨
      Exists fun error => Money.new command.amount command.currency = .error error ∧
        (forall message, error ≠ .valueError message) ∧ CreatePaymentHandler.validated command = .error error := by
  cases keyed : IdempotencyKey.new command.idempotency_key with
  | error error =>
      rcases key_new_refused keyed with ⟨message, rfl⟩
      exact .inl ⟨message, validated_of_key keyed⟩
  | ok key =>
      simp only [CreatePaymentHandler.validated, keyed, Bind.bind, Except.bind]
      cases Money.new command.amount command.currency with
      | ok money => exact .inr (.inl ⟨⟨money, rfl⟩, fun error impossible => by cases impossible⟩)
      | error error =>
          cases error with
          | valueError message => exact .inl ⟨message, rfl⟩
          | _ => exact .inr (.inr ⟨_, rfl, (fun message impossible => by cases impossible), rfl⟩)

/-- A constructor that raises `ValueError` only, and a handler above it. -/
theorem reports_of_refuses {command : CreatePaymentCommand}
    (refuses : forall error, Money.new command.amount command.currency = .error error ->
      Exists fun message => error = .valueError message) :
    ((forall money, Money.new command.amount command.currency ≠ .ok money) ->
      Exists fun message => Refuses command message) ∧
    forall error, CreatePaymentHandler.validated command = .error error ->
      Exists fun message => error = .invalidPaymentData message := by
  rcases validated_cases command with ⟨message, failed⟩ | ⟨⟨money, built⟩, passed⟩ | ⟨error, raised, other, _⟩
  · refine ⟨fun _ => ⟨message, refuses_of_validated failed⟩, fun error found => ⟨message, ?_⟩⟩
    rw [failed] at found
    exact (Except.error.inj found).symm
  · exact ⟨fun refused => absurd built (refused money), fun error failed => absurd failed (passed error)⟩
  · rcases refuses error raised with ⟨message, same⟩
    exact absurd same (other message)

/-- Every amount is treated as it should be, apart from those on which `decimal`
signals and the acceptable ones written with an exponent out of its range. -/
theorem money_contract_iff (repr : String -> String) (amount : Amount) (currency : String) :
    MoneyContract repr amount currency <-> Unsignaled amount currency := by
  by_cases converts : Exists fun decimal => reading amount = some decimal ∧ in_range amount = true
  · rcases converts with ⟨decimal, read, inside⟩
    have same : Money.of repr amount currency = Money.new decimal currency := by
      rw [Money.of, to_decimal_of_reading read inside]
      rfl
    have condition : Unsignaled amount currency <-> quiet decimal := by
      constructor
      · exact fun unsignaled => (unsignaled decimal read).1 inside
      · intro silent found read'
        cases read.symm.trans read'
        exact ⟨fun _ => silent, fun outside => Bool.noConfusion (inside.symm.trans outside)⟩
    rw [condition]
    have outcome := constructed decimal currency
    rw [← same] at outcome
    generalize built : Money.of repr amount currency = result at outcome
    have contract (accepts : (Exists fun money => result = .ok money) <-> Acceptable (.decimal decimal) currency)
        (equal : forall money, result = .ok money -> money.amount = decimal ∧ money.currency.value = currency)
        (refuses : forall error, result = .error error -> Exists fun message => error = .valueError message) :
        MoneyContract repr amount currency := by
      refine ⟨?_, ?_, ?_, ?_⟩
      · rw [built, acceptable_of_reading read]
        exact accepts
      · intro money made
        rcases equal money (built.symm.trans made) with ⟨amount_eq, named⟩
        rw [number_of_reading read, amount_eq]
        exact ⟨rfl, named⟩
      · exact fun error raised => refuses error (built.symm.trans raised)
      · rintro command rfl rfl
        cases read
        have reports := @reports_of_refuses command (fun error raised =>
          refuses error (built.symm.trans (same.trans raised)))
        refine ⟨fun unacceptable => reports.1 (fun money made => unacceptable (accepts.mp ⟨money, ?_⟩)), reports.2⟩
        exact built.symm.trans (same.trans made)
    cases outcome with
    | built money same named silent acceptable =>
        refine iff_of_true (contract ?_ ?_ (fun error raised => nomatch raised)) silent
        · exact iff_of_true ⟨money, rfl⟩ acceptable
        · rintro other made
          cases made
          exact ⟨same, named⟩
    | refused message silent unacceptable =>
        refine iff_of_true (contract ?_ (fun money made => nomatch made) ?_) silent
        · exact iff_of_false (fun ⟨money, made⟩ => nomatch made) unacceptable
        · rintro error raised
          cases raised
          exact ⟨message, rfl⟩
    | signalled loud =>
        refine iff_of_false (fun contract => ?_) loud
        rcases contract.refuses _ built with ⟨message, impossible⟩
        cases impossible
  · have outside : reading amount = none ∨ in_range amount = false := by
      cases read : reading amount with
      | none => exact .inl rfl
      | some decimal => exact .inr (Bool.eq_false_iff.mpr (fun inside => converts ⟨decimal, read, inside⟩))
    rcases @to_decimal_refused repr amount outside with ⟨message, refused⟩
    have failed : Money.of repr amount currency = .error (.valueError message) := by
      rw [Money.of, refused]
      rfl
    have condition : Unsignaled amount currency <-> ¬ Acceptable amount currency := by
      constructor
      · intro unsignaled
        cases read : reading amount with
        | none => exact unacceptable_of_unread read
        | some decimal =>
            exact (unsignaled decimal read).2 (Bool.eq_false_iff.mpr (fun inside => converts ⟨decimal, read, inside⟩))
      · exact fun unacceptable decimal read =>
          ⟨fun inside => absurd ⟨decimal, read, inside⟩ converts, fun _ => unacceptable⟩
    rw [condition]
    constructor
    · intro contract acceptable
      rcases contract.accepts.mpr acceptable with ⟨money, made⟩
      cases failed.symm.trans made
    · intro unacceptable
      refine ⟨iff_of_false ?_ unacceptable, ?_, ?_, ?_⟩
      · rintro ⟨money, made⟩
        cases failed.symm.trans made
      · intro money made
        cases failed.symm.trans made
      · intro error raised
        exact ⟨message, Except.error.inj (raised.symm.trans failed)⟩
      · rintro command rfl rfl
        cases refused

/-- A decimal that is not a number, and one with 29 digits in front of its cents. -/
theorem signalling_amounts :
    ¬ MoneyContract id (.decimal (.nan false)) "RUB" ∧ ¬ MoneyContract id (.decimal (.finite false 1 26)) "RUB" := by
  have signalled {amount : Decimal} (failed : Money.check amount = .error .invalidOperation) :
      ¬ MoneyContract id (.decimal amount) "RUB" := by
    intro contract
    have raised : Money.of id (.decimal amount) "RUB" = .error .invalidOperation := money_new_error failed
    rcases contract.refuses _ raised with ⟨message, impossible⟩
    cases impossible
  exact ⟨signalled rfl, signalled (by decide +kernel)⟩

end Properties
end Payments
