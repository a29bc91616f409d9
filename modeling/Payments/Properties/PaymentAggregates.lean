import Payments.Properties.PaymentTables

namespace Payments
namespace Properties

open Concurrency Domain Infrastructure Application

/-!
# The aggregate of a run and its row

A run loads a payment from its row and then changes the aggregate in memory
only.  These lemmas say what each method makes of it, as far as the statements
of the handler depend on it.
-/

variable {payment loaded marked : Payment} {row : PaymentModel} {now : Datetime} {attempt : PaymentAttempt}

/-- The aggregate has been loaded from the row. -/
structure LoadedFrom (row : PaymentModel) (payment : Payment) : Prop where
  id : payment.id = row.id
  status : payment.status = row.status
  version : payment.version = row.version
  processed_at : payment.processed_at = row.processed_at
  orders : Orders row payment.money payment.idempotency_key.value

theorem value_of_parse {text : String} {currency : Currency} (parsed : Currency.parse text = .ok currency) :
    currency.value = text := by
  unfold Currency.parse at parsed
  split at parsed
  · next same => cases parsed; exact same.symm
  · split at parsed
    · next same => cases parsed; exact same.symm
    · split at parsed
      · next same => cases parsed; exact same.symm
      · cases parsed

theorem fields_of_money {amount : Decimal} {text : String} {money : Money} (built : Money.new amount text = .ok money) :
    money.amount = amount ∧ money.currency.value = text := by
  unfold Money.new at built
  split at built
  · cases parsed : Currency.parse text with
    | error error =>
        rw [parsed] at built
        cases built
    | ok currency =>
        rw [parsed] at built
        cases built
        exact ⟨rfl, value_of_parse parsed⟩
  · cases built

theorem loaded_from (done : row.to_domain = .ok loaded) : LoadedFrom row loaded := by
  unfold PaymentModel.to_domain at done
  cases keyed : IdempotencyKey.new row.idempotency_key with
  | error error =>
      rw [keyed] at done
      cases done
  | ok key =>
      cases priced : Money.new row.amount row.currency with
      | error error =>
          rw [keyed, priced] at done
          cases done
      | ok money =>
          rw [keyed, priced] at done
          cases done
          rcases fields_of_money priced with ⟨amount, currency⟩
          exact ⟨rfl, rfl, rfl, rfl, amount, currency, IdempotencyKey.value_of_new keyed⟩

/-- The exceptions that do not report a conflict of versions. -/
def tame : Error -> Bool
  | .versionConflict _ => false
  | _ => true

theorem tame_external {raised : Error} (known : external raised = true) : tame raised = true := by
  cases raised with
  | versionConflict id => cases known
  | _ => rfl

/-- The exceptions of the value objects. -/
def of_values : Error -> Bool
  | .valueError _ => true
  | .invalidOperation => true
  | _ => false

theorem values_currency {text : String} {raised : Error} (failed : Currency.parse text = .error raised) :
    of_values raised = true := by
  unfold Currency.parse at failed
  split at failed
  · cases failed
  · split at failed
    · cases failed
    · split at failed
      · cases failed
      · cases failed
        rfl

theorem values_quantize {amount : Decimal} {raised : Error} (failed : amount.quantize_cents = .error raised) :
    of_values raised = true := by
  cases amount with
  | finite negative coefficient exponent =>
      simp only [Decimal.quantize_cents] at failed
      generalize (if -2 ≤ exponent then _ else _ : Nat) = cents at failed
      by_cases small : cents < 10 ^ Decimal.precision
      · rw [if_pos small] at failed
        cases failed
      · rw [if_neg small] at failed
        cases failed
        rfl
  | infinity negative =>
      cases failed
      rfl
  | nan signaling =>
      cases signaling <;> cases failed
      rfl

theorem values_money_check {amount : Decimal} {raised : Error} (failed : Money.check amount = .error raised) :
    of_values raised = true := by
  unfold Money.check at failed
  cases sign : amount.nonpositive with
  | error error =>
      rw [sign] at failed
      cases failed
      cases amount <;> cases sign
      rfl
  | ok nonpositive =>
      rw [sign] at failed
      cases nonpositive with
      | true =>
          cases failed
          rfl
      | false =>
          cases rounded : amount.quantize_cents with
          | error error =>
              rw [rounded] at failed
              cases failed
              exact values_quantize rounded
          | ok value =>
              rw [rounded] at failed
              by_cases different : amount.value ≠ value.value
              · have thrown : (Except.error (.valueError "Amount must have at most 2 decimal places") :
                    Except Error Unit) = .error raised := by
                  simpa [bind, Except.bind, different, throw, throwThe, MonadExceptOf.throw] using failed
                cases thrown
                rfl
              · simp [bind, Except.bind, pure, Except.pure, different] at failed

theorem values_money {amount : Decimal} {text : String} {raised : Error}
    (failed : Money.new amount text = .error raised) : of_values raised = true := by
  unfold Money.new at failed
  split at failed
  · cases parsed : Currency.parse text with
    | ok currency =>
        rw [parsed] at failed
        cases failed
    | error error =>
        rw [parsed] at failed
        cases failed
        exact values_currency parsed
  · next error checked =>
      cases failed
      exact values_money_check checked

theorem values_key {text : String} {raised : Error} (failed : IdempotencyKey.new text = .error raised) :
    of_values raised = true := by
  unfold IdempotencyKey.new at failed
  split at failed
  · cases failed
  · next error checked =>
      cases failed
      unfold IdempotencyKey.check at checked
      by_cases empty : text.length = 0
      · rw [if_pos empty] at checked
        cases checked
        rfl
      · by_cases long : IdempotencyKey.MAX_LENGTH < text.length
        · rw [if_neg empty, if_pos long] at checked
          cases checked
          rfl
        · rw [if_neg empty, if_neg long] at checked
          cases matched : matches_valid_key_re text with
          | true =>
              rw [matched] at checked
              cases checked
          | false =>
              rw [matched] at checked
              cases checked
              rfl

theorem values_load {raised : Error} (failed : row.to_domain = .error raised) : of_values raised = true := by
  unfold PaymentModel.to_domain at failed
  cases keyed : IdempotencyKey.new row.idempotency_key with
  | error error =>
      rw [keyed] at failed
      cases failed
      exact values_key keyed
  | ok key =>
      cases priced : Money.new row.amount row.currency with
      | error error =>
          rw [keyed, priced] at failed
          cases failed
          exact values_money priced
      | ok money =>
          rw [keyed, priced] at failed
          cases failed

theorem tame_of_values {raised : Error} (known : of_values raised = true) : tame raised = true := by
  cases raised with
  | versionConflict id => cases known
  | _ => rfl

/-! ## The methods of the aggregate -/

section

variable {X Y : Type} {first : Except Error X} {rest : X -> Except Error Y}

theorem ok_bind (value : X) : ((.ok value : Except Error X) >>= rest) = rest value := rfl

theorem bind_ok {value : Y} (done : (first >>= rest) = .ok value) :
    Exists fun middle => first = .ok middle ∧ rest middle = .ok value := by
  cases first with
  | error error => cases done
  | ok middle => exact ⟨middle, rfl, done⟩

theorem bind_error {raised : Error} (failed : (first >>= rest) = .error raised) :
    first = .error raised ∨ Exists fun middle => first = .ok middle ∧ rest middle = .error raised := by
  cases first with
  | error error =>
      cases failed
      exact .inl rfl
  | ok middle => exact .inr ⟨middle, rfl, failed⟩

end

theorem of_transition {target : PaymentStatus} (done : payment.transition target = .ok marked) :
    target ∈ Payment.VALID_TRANSITIONS payment.status ∧ marked = { payment with status := target } := by
  unfold Payment.transition at done
  split at done
  · next valid =>
      cases done
      exact ⟨valid, rfl⟩
  · cases done

theorem tame_of_transition {target : PaymentStatus} {raised : Error}
    (failed : payment.transition target = .error raised) : tame raised = true := by
  unfold Payment.transition at failed
  split at failed
  · cases failed
  · cases failed
    rfl

/-- What a mark changes and what it leaves. -/
structure MarkedAs (payment marked : Payment) (target : PaymentStatus) (processed_at : Option Datetime) : Prop where
  valid : target ∈ Payment.VALID_TRANSITIONS payment.status
  status : marked.status = target
  version : marked.version = payment.version + 1
  processed_at : marked.processed_at = processed_at.orElse (fun _ => payment.processed_at)
  id : marked.id = payment.id
  money : marked.money = payment.money
  idempotency_key : marked.idempotency_key = payment.idempotency_key

theorem marked_processing (done : payment.mark_processing now = .ok marked) :
    MarkedAs payment marked .PROCESSING none := by
  rcases bind_ok done with ⟨moved, transition, same⟩
  rcases of_transition transition with ⟨valid, rfl⟩
  cases same
  exact ⟨valid, rfl, rfl, rfl, rfl, rfl, rfl⟩

theorem marked_succeeded (done : payment.mark_succeeded now = .ok marked) :
    MarkedAs payment marked .SUCCEEDED (some now) := by
  rcases bind_ok done with ⟨moved, transition, same⟩
  rcases of_transition transition with ⟨valid, rfl⟩
  cases same
  exact ⟨valid, rfl, rfl, rfl, rfl, rfl, rfl⟩

theorem marked_failed {reason : Option String} (done : payment.mark_failed now reason = .ok marked) :
    MarkedAs payment marked .FAILED (some now) := by
  rcases bind_ok done with ⟨moved, transition, same⟩
  rcases of_transition transition with ⟨valid, rfl⟩
  cases same
  exact ⟨valid, rfl, rfl, rfl, rfl, rfl, rfl⟩

theorem tame_mark_processing {raised : Error} (failed : payment.mark_processing now = .error raised) :
    tame raised = true := by
  rcases bind_error failed with transition | ⟨moved, _, impossible⟩
  · exact tame_of_transition transition
  · cases impossible

theorem tame_mark_succeeded {raised : Error} (failed : payment.mark_succeeded now = .error raised) :
    tame raised = true := by
  rcases bind_error failed with transition | ⟨moved, _, impossible⟩
  · exact tame_of_transition transition
  · cases impossible

theorem tame_mark_failed {reason : Option String} {raised : Error}
    (failed : payment.mark_failed now reason = .error raised) : tame raised = true := by
  rcases bind_error failed with transition | ⟨moved, _, impossible⟩
  · exact tame_of_transition transition
  · cases impossible

theorem of_attempt_transition {target : PaymentAttemptStatus} {moved : PaymentAttempt}
    (done : attempt.transition target = .ok moved) : moved = { attempt with status := target } := by
  unfold PaymentAttempt.transition at done
  split at done
  · cases done
    rfl
  · cases done

theorem tame_attempt_transition {target : PaymentAttemptStatus} {raised : Error}
    (failed : attempt.transition target = .error raised) : tame raised = true := by
  unfold PaymentAttempt.transition at failed
  split at failed
  · cases failed
  · cases failed
    rfl

theorem tame_require_processing {op : String} {raised : Error}
    (failed : payment.require_processing op = .error raised) : tame raised = true := by
  unfold Payment.require_processing at failed
  split at failed
  · cases failed
  · cases failed
    rfl

/-- A begun attempt is the last one of the aggregate. -/
structure BegunWith (payment next : Payment) (attempt : PaymentAttempt) (attempt_id : UUID) : Prop where
  id : next.id = payment.id
  status : next.status = payment.status
  version : next.version = payment.version
  processed_at : next.processed_at = payment.processed_at
  money : next.money = payment.money
  idempotency_key : next.idempotency_key = payment.idempotency_key
  last : next.attempts.getLast? = some attempt
  attempt_id : attempt.id = attempt_id
  payment_id : attempt.payment_id = payment.id
  number : attempt.attempt_number = payment.next_attempt_number

theorem begun_with {next : Payment} {attempt_id : UUID} {correlation_id : Option String}
    (done : payment.begin_attempt attempt_id correlation_id now = .ok (next, attempt)) :
    BegunWith payment next attempt attempt_id := by
  rcases bind_ok done with ⟨_, _, started⟩
  rcases bind_ok started with ⟨begun, start, same⟩
  rcases bind_ok start with ⟨moved, transition, same'⟩
  rw [of_attempt_transition transition] at same'
  cases same'
  cases same
  exact ⟨rfl, rfl, rfl, rfl, rfl, rfl, by simp, rfl, rfl, rfl⟩

theorem tame_begin_attempt {attempt_id : UUID} {correlation_id : Option String} {raised : Error}
    (failed : payment.begin_attempt attempt_id correlation_id now = .error raised) : tame raised = true := by
  rcases bind_error failed with required | ⟨_, _, failed⟩
  · exact tame_require_processing required
  · rcases bind_error failed with start | ⟨_, _, impossible⟩
    · rcases bind_error start with transition | ⟨_, _, impossible⟩
      · exact tame_attempt_transition transition
      · cases impossible
    · cases impossible

/-- The end of the last attempt leaves everything else of the aggregate. -/
structure EndedWith (payment next : Payment) (last ended : PaymentAttempt) (target : PaymentAttemptStatus) :
    Prop where
  id : next.id = payment.id
  status : next.status = payment.status
  version : next.version = payment.version
  processed_at : next.processed_at = payment.processed_at
  attempt_id : ended.id = last.id
  payment_id : ended.payment_id = last.payment_id
  number : ended.attempt_number = last.attempt_number
  target : ended.status = target

theorem current_of_last {current : PaymentAttempt} (last : payment.attempts.getLast? = some attempt)
    (done : payment.current_attempt = .ok current) : current = attempt := by
  unfold Payment.current_attempt at done
  rw [last] at done
  cases done
  rfl

theorem ended_succeeded {next : Payment} {ended : PaymentAttempt} {result : GatewayResult}
    (last : payment.attempts.getLast? = some attempt)
    (done : payment.succeed_attempt now result = .ok (next, ended)) :
    EndedWith payment next attempt ended .SUCCEEDED := by
  rcases bind_ok done with ⟨_, _, found⟩
  rcases bind_ok found with ⟨current, present, ending⟩
  rcases bind_ok ending with ⟨result, succeeded, same⟩
  rcases bind_ok succeeded with ⟨moved, transition, same'⟩
  rw [of_attempt_transition transition, current_of_last last present] at same'
  cases same'
  cases same
  exact ⟨rfl, rfl, rfl, rfl, rfl, rfl, rfl, rfl⟩

theorem ended_failed {next : Payment} {ended : PaymentAttempt} {error : Option String}
    (last : payment.attempts.getLast? = some attempt)
    (done : payment.fail_attempt now error = .ok (next, ended)) :
    EndedWith payment next attempt ended .FAILED := by
  rcases bind_ok done with ⟨_, _, found⟩
  rcases bind_ok found with ⟨current, present, ending⟩
  rcases bind_ok ending with ⟨result, failed, same⟩
  rcases bind_ok failed with ⟨moved, transition, same'⟩
  rw [of_attempt_transition transition, current_of_last last present] at same'
  cases same'
  cases same
  exact ⟨rfl, rfl, rfl, rfl, rfl, rfl, rfl, rfl⟩

theorem tame_current {raised : Error} (failed : payment.current_attempt = .error raised) : tame raised = true := by
  unfold Payment.current_attempt at failed
  split at failed
  · cases failed
  · cases failed
    rfl

theorem tame_succeed_attempt {result : GatewayResult} {raised : Error}
    (failed : payment.succeed_attempt now result = .error raised) : tame raised = true := by
  rcases bind_error failed with required | ⟨_, _, failed⟩
  · exact tame_require_processing required
  · rcases bind_error failed with missing | ⟨_, _, failed⟩
    · exact tame_current missing
    · rcases bind_error failed with ending | ⟨_, _, impossible⟩
      · rcases bind_error ending with transition | ⟨_, _, impossible⟩
        · exact tame_attempt_transition transition
        · cases impossible
      · cases impossible

theorem tame_fail_attempt {error : Option String} {raised : Error}
    (failed : payment.fail_attempt now error = .error raised) : tame raised = true := by
  rcases bind_error failed with required | ⟨_, _, failed⟩
  · exact tame_require_processing required
  · rcases bind_error failed with missing | ⟨_, _, failed⟩
    · exact tame_current missing
    · rcases bind_error failed with ending | ⟨_, _, impossible⟩
      · rcases bind_error ending with transition | ⟨_, _, impossible⟩
        · exact tame_attempt_transition transition
        · cases impossible
      · cases impossible

end Properties
end Payments
