import Payments.Concurrency.Evaluations
import Payments.Infrastructure.Changes
import Payments.Infrastructure.Sessions

namespace Payments
namespace Properties

open Concurrency Domain Infrastructure Prog

/-!
# What is stored is loaded again

Every entity is written by one statement, its progress by a second one, and it
is read by a third one.  A session may be another one at each of these steps,
as long as it sees the row that the last step has left.  What others do between
two operations of a session is a parameter: they keep the constraints of the
database and the row that is looked at.
-/

variable {admits : Interruption -> Prop} {name : TableName} {row : Row name} {run reader : RunId} {world before after first last : World}

/-! ## Sessions -/

/-- The session sees this version of the row. -/
def Shows (run : RunId) {name : TableName} (row : Row name) (world : World) : Prop :=
  (world.cell name row.id).visible run = some row

/-- No two payments that a session sees have the same idempotency key. -/
def UniqueKeys (world : World) : Prop :=
  forall (run : RunId) (key other : UUID) (row found : PaymentModel),
    (world.cell .payments key).visible run = some row -> (world.cell .payments other).visible run = some found ->
      row.idempotency_key = found.idempotency_key -> key = other

/-- What the others do while a session does nothing, and what they keep. -/
structure Meanwhile (run : RunId) (kept : World -> Prop) (before after : World) : Prop where
  accepting : after.refusing run = before.refusing run
  keyed : World.Keyed after
  unique : UniqueKeys after
  kept : kept before -> kept after

/-- A call returns a value of this kind, unless an operation of it is interrupted. -/
inductive Gives (admits : Interruption -> Prop) {X : Type} (value : X -> Prop) : Except Error X -> Prop where
  | returned (found : X) (holds : value found) : Gives admits value (.ok found)
  | interrupted (interruption : Interruption) (admitted : admits interruption) :
      Gives admits value (.error interruption.error)

/-- A program of one session, with others acting between its operations. -/
abbrev Session (admits : Interruption -> Prop) {X : Type} (run : RunId) (kept : World -> Prop) (program : Program X) (first : World)
    (outcome : Except Error X) (last : World) : Prop :=
  Evaluates (Meanwhile run kept) (Performs admits run) program first outcome last

theorem statement_accepted {X : Type} {choice : Choice} {execute : Option (World × Except Error X)}
    {answer : Except Error X} (accepting : world.refusing run = false)
    (ran : World.statement run choice world execute = some (after, answer)) :
    (Exists fun interruption => choice.interruption = some interruption ∧ after = world ∧
      answer = .error interruption.error) ∨ execute = some (after, answer) := by
  simp only [World.statement, accepting, Bool.false_eq_true, if_false] at ran
  cases interrupted : choice.interruption with
  | none =>
      rw [interrupted] at ran
      exact .inr ran
  | some interruption =>
      rw [interrupted] at ran
      cases ran
      exact .inl ⟨interruption, rfl, rfl, rfl⟩

/-- A committed row is seen by every session that has no version of its own. -/
theorem Shows.committed {choice : Choice} (shows_row : Shows run row before)
    (committed : World.exec run .commit choice before = some (after, .ok ()))
    (free : ¬ (after.cell name row.id).HeldBy reader) : Shows reader row after := by
  have same : after = before.commit run := by
    simp only [World.exec, World.exec_commit, Option.some.injEq] at committed
    split at committed
    · cases committed
    · split at committed <;> cases committed
      rfl
  subst same
  rw [Shows, Cell.visible_of_not_heldBy free, World.cell_commit]
  by_cases held : (before.cell name row.id).HeldBy run
  · rcases held with ⟨draft, locked⟩
    rw [Cell.commit_of_lock locked]
    exact (Cell.visible_of_lock locked).symm.trans shows_row
  · rw [Cell.commit_of_not_heldBy held]
    exact (Cell.visible_of_not_heldBy held).symm.trans shows_row

/-- A query is answered from the state in which it is executed. -/
theorem session_select {query : Query name} {kept : World -> Prop} {outcome : Except Error (List (Row name))}
    (accepting : first.refusing run = false)
    (session : Session admits run kept (await (.select name query)) first outcome last) :
    Meanwhile run kept first last ∧
      Gives admits (fun rows => rows = ((last.tables name).select run query.condition).insertionSort
        (fun left right => query.before left right)) outcome := by
  rcases session.of_perform with ⟨before, meanwhile, choice, admitted, ran⟩
  rcases statement_accepted (meanwhile.accepting.trans accepting) ran with
    ⟨interruption, interrupted, rfl, rfl⟩ | executed
  · exact ⟨meanwhile, .interrupted interruption (admitted _ interrupted)⟩
  · cases executed
    exact ⟨meanwhile, .returned _ rfl⟩

/-- A query that selects one row only finds the version that the session sees. -/
theorem session_select_row {query : Query name} {outcome : Except Error (List (Row name))}
    (accepting : first.refusing run = false) (shows_row : Shows run row first) (selected : query.condition row = true)
    (alone : forall world key found, World.Keyed world -> UniqueKeys world -> Shows run row world ->
      (world.cell name key).visible run = some found -> query.condition found = true -> key = row.id)
    (session : Session admits run (Shows run row) (await (.select name query)) first outcome last) :
    Gives admits (fun rows => rows = [row]) outcome := by
  rcases session_select accepting session with ⟨meanwhile, gives⟩
  have seen := meanwhile.kept shows_row
  cases gives with
  | interrupted interruption admitted => exact .interrupted interruption admitted
  | returned rows listed =>
      have single := Table.select_at (fun key found => alone last key found meanwhile.keyed meanwhile.unique seen)
      have visible : ((last.tables name).cell row.id).visible run = some row := seen
      rw [single, visible] at listed
      simp only [selected, if_true] at listed
      exact .returned rows listed

/-- A sequence gives what its second program gives for the values of the first one. -/
theorem Session.gives {X Y : Type} {kept : World -> Prop} {program : Program X} {rest : X -> Program Y}
    {outcome : Except Error Y} (found : X -> World -> Prop) {value : Y -> Prop}
    (session : Session admits run kept (program >>= rest) first outcome last)
    (before : forall outcome middle, Session admits run kept program first outcome middle ->
      Gives admits (fun result => found result middle) outcome)
    (after : forall result middle, found result middle -> Session admits run kept (rest result) middle outcome last ->
      Gives admits value outcome) : Gives admits value outcome := by
  rcases session.of_bind with ⟨result, middle, starting, ending⟩ | ⟨error, rfl, starting⟩
  · cases before _ _ starting with
    | returned _ holds => exact after result middle holds ending
  · cases before _ _ starting with
    | interrupted interruption admitted => exact .interrupted interruption admitted

theorem session_add {outcome : Except Error Unit} (storable : row.storable = true)
    (unused : row.id ∉ (first.tables name).keys)
    (session : Session admits run (fun world => row.id ∉ (world.tables name).keys) (await (.add name row)) first outcome last) :
    outcome = .ok () ∧ Shows run row last := by
  rcases session.of_perform with ⟨before, meanwhile, choice, admitted, ran⟩
  have unlisted := meanwhile.kept unused
  have added : World.exec_add run name row before =
      before.set_table name ((before.tables name).put run row.id row) := by
    simp only [World.exec_add, storable, unlisted, not_false_eq_true, decide_true, Bool.and_self, if_true]
  simp only [World.exec, added] at ran
  cases ran
  have written : (World.set_table name ((before.tables name).put run row.id row) before).cell name row.id =
      ((before.tables name).cell row.id).write run (some row) := by
    rw [World.cell_set_table_self, Table.put_cell_self]
  exact ⟨rfl, Cell.visible_of_lock (congrArg Cell.lock written)⟩

/-- What an operation of the session leaves alone, whatever the others did before it. -/
def OnlyChanges (run : RunId) (kept : World -> Prop) (name : TableName) (id : UUID) (first last : World) : Prop :=
  Exists fun before => Meanwhile run kept first before ∧
    forall found key, (found = name -> key ≠ id) -> last.cell found key = before.cell found key

/-- An update of one identifier changes this row only, and the session sees the result. -/
theorem session_update {statement : Update name} {outcome : Except Error (List (Row name))} {changed : Row name}
    (accepting : first.refusing run = false) (shows_row : Shows run row first)
    (selected : statement.condition row = true)
    (named : forall found, statement.condition found = true -> Row.id found = row.id)
    (changes : forall time, statement.values time row = changed) (storable : changed.storable = true)
    (session : Session admits run (Shows run row) (await (.update name statement)) first outcome last) :
    Gives admits (fun _ => Shows run changed last) outcome ∧
      OnlyChanges run (Shows run row) name row.id first last := by
  rcases session.of_perform with ⟨before, meanwhile, choice, admitted, ran⟩
  have seen : ((before.tables name).cell row.id).visible run = some row := meanwhile.kept shows_row
  have same_id : changed.id = row.id := by
    rw [← changes choice.time, Update.id_values]
  rcases statement_accepted (meanwhile.accepting.trans accepting) ran with
    ⟨interruption, interrupted, rfl, rfl⟩ | executed
  · exact ⟨.interrupted interruption (admitted _ interrupted), last, meanwhile, fun _ _ _ => rfl⟩
  · rcases Option.map_eq_some_iff.mp executed with ⟨⟨table, rows⟩, wrote, ended⟩
    have only : forall key found, ((before.tables name).cell key).visible run = some found ->
        statement.condition found = true -> key = row.id := by
      intro key found visible matched
      exact (meanwhile.keyed name key found (Cell.carries_of_visible visible)).symm.trans (named found matched)
    have reported := Table.update_at wrote only
    rw [seen] at reported
    simp only [selected, if_true, changes] at reported
    subst reported
    simp only [List.all_cons, storable, List.all_nil, Bool.and_self, if_true, Prod.mk.injEq] at ended
    rcases ended with ⟨rfl, rfl⟩
    have updated := World.Executed.updated_at meanwhile.keyed named
      (.updated name statement choice.time table [changed] wrote (meanwhile.accepting.trans accepting)
        (by simp [storable]))
    cases updated with
    | missed unmatched => exact absurd selected (by simp [unmatched row seen])
    | matched old time visible _ _ single written others =>
        have found : old = row := Option.some.inj (visible.symm.trans seen)
        subst found
        rw [changes] at written
        refine ⟨.returned _ ?_, before, meanwhile, others⟩
        rw [Shows, same_id]
        exact Cell.visible_of_lock (congrArg Cell.lock written)

theorem session_saves {statement : Update name} {outcome : Except Error Unit} {changed : Row name}
    (accepting : first.refusing run = false) (shows_row : Shows run row first)
    (selected : statement.condition row = true)
    (named : forall found, statement.condition found = true -> Row.id found = row.id)
    (changes : forall time, statement.values time row = changed) (storable : changed.storable = true)
    (session : Session admits run (Shows run row) (await (.update name statement) >>= fun _ => pure ()) first outcome last) :
    Gives admits (fun _ => Shows run changed last) outcome ∧
      OnlyChanges run (Shows run row) name row.id first last := by
  rcases session.of_bind with ⟨rows, middle, updating, returned⟩ | ⟨error, rfl, updating⟩
  · rcases returned.of_pure with ⟨rfl, rfl⟩
    rcases session_update accepting shows_row selected named changes storable updating with ⟨gives, only⟩
    cases gives with
    | returned _ holds => exact ⟨.returned () holds, only⟩
  · rcases session_update accepting shows_row selected named changes storable updating with ⟨gives, only⟩
    cases gives with
    | interrupted interruption admitted => exact ⟨.interrupted interruption admitted, only⟩

/-! ## Payments -/

/-- Rounding to cents leaves an exponent of two places. -/
theorem quantized_exponent {amount : Decimal} {negative : Bool} {cents : Nat} {exponent : Int}
    (quantized : amount.quantize_cents = .ok (.finite negative cents exponent)) : exponent = -2 := by
  cases amount with
  | finite sign coefficient places =>
      simp only [Decimal.quantize_cents] at quantized
      split_ifs at quantized <;> cases quantized <;> rfl
  | infinity sign => cases quantized
  | nan signaling => cases signaling <;> cases quantized

/-- A stored amount passes the checks of `Money` again and is the same number. -/
theorem numeric_checked {amount stored : Decimal} (checked : Money.check amount = .ok ())
    (numeric : numeric_18_2 amount = some stored) (positive : stored.nonpositive = .ok false) :
    Money.check stored = .ok () ∧ stored.value = amount.value := by
  rw [numeric_18_2] at numeric
  split at numeric
  · next negative cents exponent quantized =>
      split at numeric
      · next small =>
          cases numeric
          have places := quantized_exponent quantized
          subst places
          have precise : cents < 10 ^ Decimal.precision :=
            lt_trans small (Nat.pow_lt_pow_right (by decide) (by decide))
          have again : (Decimal.finite negative cents (-2)).quantize_cents = .ok (.finite negative cents (-2)) := by
            simp [Decimal.quantize_cents, precise]
          have number : (Decimal.finite negative cents (-2)).value = amount.value := by
            rw [Money.check, quantized] at checked
            cases sign : amount.nonpositive with
            | error error => simp [sign, Bind.bind, Except.bind] at checked
            | ok nonpositive =>
                cases nonpositive with
                | true => simp [sign, Bind.bind, Except.bind, throw, throwThe, MonadExceptOf.throw] at checked
                | false =>
                    by_contra different
                    have unequal : amount.value ≠ (Decimal.finite negative cents (-2)).value := Ne.symm different
                    simp [sign, Bind.bind, Except.bind, unequal, throw, throwThe, MonadExceptOf.throw] at checked
          refine ⟨?_, number⟩
          rw [Money.check, positive, again]
          simp [Bind.bind, Except.bind, Pure.pure, Except.pure]
      · cases numeric
  · cases numeric

/-- A stored amount is positive. -/
theorem positive_of_storable {row : PaymentModel} (storable : row.storable = true) :
    row.amount.nonpositive = .ok false := by
  simp only [PaymentModel.storable, Bool.and_eq_true] at storable
  rcases storable with ⟨⟨⟨⟨⟨⟨⟨_, positive⟩, _⟩, _⟩, _⟩, _⟩, _⟩, _⟩
  cases sign : row.amount.nonpositive with
  | error error => simp [sign] at positive
  | ok nonpositive => simpa [sign] using positive

/-- Every stored field is the same; amounts are compared as numbers. -/
structure SamePayment (loaded payment : Payment) : Prop where
  id : loaded.id = payment.id
  idempotency_key : loaded.idempotency_key = payment.idempotency_key
  amount : loaded.money.amount.value = payment.money.amount.value
  currency : loaded.money.currency = payment.money.currency
  description : loaded.description = payment.description
  metadata : loaded.metadata = payment.metadata
  webhook_url : loaded.webhook_url = payment.webhook_url
  correlation_id : loaded.correlation_id = payment.correlation_id
  status : loaded.status = payment.status
  created_at : loaded.created_at = payment.created_at
  processed_at : loaded.processed_at = payment.processed_at
  version : loaded.version = payment.version

theorem money_new {amount : Decimal} (currency : Currency) (checked : Money.check amount = .ok ()) :
    Money.new amount currency.value = .ok ⟨amount, currency, checked⟩ := by
  have parsed : Currency.parse currency.value = .ok currency := by
    cases currency <;> decide
  unfold Money.new
  split
  · rw [parsed]
    rfl
  · next error failed =>
      rw [checked] at failed
      cases failed

/-- The value objects accept what they have been stored as. -/
theorem reconstructed {payment : Payment} {row : PaymentModel} (stored : PaymentModel.of_payment payment = some row)
    (storable : row.storable = true) :
    Exists fun loaded => row.to_domain = .ok loaded ∧ SamePayment loaded payment := by
  rcases Option.map_eq_some_iff.mp stored with ⟨amount, numeric, rfl⟩
  have positive : amount.nonpositive = .ok false := positive_of_storable storable
  rcases numeric_checked payment.money.checked numeric positive with ⟨checked, number⟩
  refine ⟨{ payment with money := ⟨amount, payment.money.currency, checked⟩, events := [], attempts := [] }, ?_, ?_⟩
  · rw [PaymentModel.to_domain, IdempotencyKey.new_value, money_new payment.money.currency checked]
    rfl
  · exact ⟨rfl, rfl, number, rfl, rfl, rfl, rfl, rfl, rfl, rfl, rfl, rfl⟩

theorem session_insert {row : PaymentModel} {outcome : Except Error Nat} (storable : row.storable = true)
    (accepting : first.refusing run = false) (unused : row.id ∉ (first.tables .payments).keys)
    (session : Session admits run (fun world => row.id ∉ (world.tables .payments).keys)
      (await (.insert_on_conflict_do_nothing (some row))) first outcome last) :
    Gives admits (fun rowcount => rowcount = 1 ∧ @Shows run .payments row last ∨
      rowcount = 0 ∧ last.conflicts run row.idempotency_key = true) outcome := by
  rcases session.of_perform with ⟨before, meanwhile, choice, admitted, ran⟩
  have unlisted := meanwhile.kept unused
  rcases statement_accepted (meanwhile.accepting.trans accepting) ran with
    ⟨interruption, interrupted, rfl, rfl⟩ | executed
  · exact .interrupted interruption (admitted _ interrupted)
  · simp only [storable, Bool.not_true, Bool.false_eq_true, if_false, if_neg unlisted] at executed
    split at executed
    · next conflicts =>
        cases executed
        exact .returned 0 (.inr ⟨rfl, conflicts⟩)
    · split at executed
      · cases executed
      · cases executed
        refine .returned 1 (.inl ⟨rfl, ?_⟩)
        have written : (World.set_table .payments ((before.tables .payments).put run row.id row) before).cell
            .payments row.id = ((before.tables .payments).cell row.id).write run (some row) := by
          rw [World.cell_set_table_self, Table.put_cell_self]
        exact Cell.visible_of_lock (congrArg Cell.lock written)

/-- An inserted payment is seen by the session; otherwise its key is taken. -/
theorem try_insert_shows {payment : Payment} {row : PaymentModel} {outcome : Except Error (Option Payment)}
    (stored : PaymentModel.of_payment payment = some row) (storable : row.storable = true)
    (accepting : first.refusing run = false) (unused : row.id ∉ (first.tables .payments).keys)
    (session : Session admits run (fun world => row.id ∉ (world.tables .payments).keys)
      (SqlAlchemyPaymentRepository.try_insert payment) first outcome last) :
    Gives admits (fun inserted => inserted = some payment ∧ @Shows run .payments row last ∨
      inserted = none ∧ last.conflicts run row.idempotency_key = true) outcome := by
  rw [SqlAlchemyPaymentRepository.try_insert, stored] at session
  refine session.gives _ (fun outcome middle inserting => session_insert storable accepting unused inserting) ?_
  rintro rowcount middle inserted returned
  rcases returned.of_pure with ⟨rfl, rfl⟩
  rcases inserted with ⟨rfl, shows_row⟩ | ⟨rfl, conflicts⟩
  · exact .returned _ (.inl ⟨rfl, shows_row⟩)
  · exact .returned _ (.inr ⟨rfl, conflicts⟩)

theorem of_payment_fields {payment : Payment} {row : PaymentModel}
    (stored : PaymentModel.of_payment payment = some row) :
    row.id = payment.id ∧ row.idempotency_key = payment.idempotency_key.value := by
  rcases Option.map_eq_some_iff.mp stored with ⟨amount, _, rfl⟩
  exact ⟨rfl, rfl⟩

/-- The mapper gives the stored payment back. -/
theorem mapped_payment {payment : Payment} {row : PaymentModel} {kept : World -> Prop}
    {outcome : Except Error (Option Payment)} (stored : PaymentModel.of_payment payment = some row)
    (storable : row.storable = true)
    (session : Session admits run kept (ofExcept row.to_domain >>= fun payment => pure (some payment)) first outcome last) :
    Gives admits (fun found => Exists fun loaded => found = some loaded ∧ SamePayment loaded payment) outcome := by
  rcases reconstructed stored storable with ⟨loaded, load, same⟩
  rw [load] at session
  cases session
  exact .returned _ ⟨loaded, rfl, same⟩

/-- A payment that the session sees is loaded with its fields. -/
theorem get_loads {payment : Payment} {row : PaymentModel} {outcome : Except Error (Option Payment)}
    (stored : PaymentModel.of_payment payment = some row) (storable : row.storable = true)
    (accepting : first.refusing run = false) (shows_row : @Shows run .payments row first)
    (session : Session admits run (@Shows run .payments row) (SqlAlchemyPaymentRepository.get payment.id) first outcome last) :
    Gives admits (fun found => Exists fun loaded => found = some loaded ∧ SamePayment loaded payment) outcome := by
  have id := (of_payment_fields stored).1
  have selected : (Query.payment_by_id payment.id).condition row = true := decide_eq_true id
  refine session.gives (fun rows _ => rows = [row]) (fun outcome middle selecting =>
    session_select_row accepting shows_row selected ?_ selecting) ?_
  · intro world key found keyed _ _ visible matched
    have named : found.id = payment.id := of_decide_eq_true matched
    exact ((keyed .payments key found (Cell.carries_of_visible visible)).symm.trans named).trans id.symm
  · rintro _ middle rfl mapping
    exact mapped_payment stored storable mapping

/-- The same by its idempotency key, which no other visible payment has. -/
theorem get_by_idempotency_key_loads {payment : Payment} {row : PaymentModel}
    {outcome : Except Error (Option Payment)} (stored : PaymentModel.of_payment payment = some row)
    (storable : row.storable = true) (accepting : first.refusing run = false)
    (shows_row : @Shows run .payments row first)
    (session : Session admits run (@Shows run .payments row)
      (SqlAlchemyPaymentRepository.get_by_idempotency_key payment.idempotency_key.value) first outcome last) :
    Gives admits (fun found => Exists fun loaded => found = some loaded ∧ SamePayment loaded payment) outcome := by
  have idempotency_key := (of_payment_fields stored).2
  have selected : (Query.payment_by_idempotency_key payment.idempotency_key.value).condition row = true :=
    decide_eq_true idempotency_key
  refine session.gives (fun rows _ => rows = [row]) (fun outcome middle selecting =>
    session_select_row accepting shows_row selected ?_ selecting) ?_
  · intro world key found _ unique seen visible matched
    have same : found.idempotency_key = payment.idempotency_key.value := of_decide_eq_true matched
    exact unique run key row.id found row visible seen (same.trans idempotency_key.symm)
  · rintro _ middle rfl mapping
    exact mapped_payment stored storable mapping

/-! ## Charge attempts -/

/-- Admissible sequences of `start`, `succeed` and `fail`. -/
inductive AttemptChanges (attempt : PaymentAttempt) : PaymentAttempt -> Prop where
  | refl : AttemptChanges attempt attempt
  | start {old new : PaymentAttempt} {now : Datetime} (earlier : AttemptChanges attempt old)
      (started : old.start now = .ok new) : AttemptChanges attempt new
  | succeed {old new : PaymentAttempt} {now : Datetime} {result : GatewayResult}
      (earlier : AttemptChanges attempt old) (succeeded : old.succeed now result = .ok new) :
      AttemptChanges attempt new
  | fail {old new : PaymentAttempt} {now : Datetime} {error : Option String}
      (earlier : AttemptChanges attempt old) (failed : old.fail now error = .ok new) : AttemptChanges attempt new

/-- The fields that the update of an attempt does not mention. -/
structure SameAttemptFields (before after : PaymentAttempt) : Prop where
  id : after.id = before.id
  payment_id : after.payment_id = before.payment_id
  attempt_number : after.attempt_number = before.attempt_number
  correlation_id : after.correlation_id = before.correlation_id
  created_at : after.created_at = before.created_at

theorem SameAttemptFields.trans {first second third : PaymentAttempt} (before : SameAttemptFields first second)
    (after : SameAttemptFields second third) : SameAttemptFields first third where
  id := after.id.trans before.id
  payment_id := after.payment_id.trans before.payment_id
  attempt_number := after.attempt_number.trans before.attempt_number
  correlation_id := after.correlation_id.trans before.correlation_id
  created_at := after.created_at.trans before.created_at

/-- Every method first makes its transition. -/
theorem same_of_transition {old new : PaymentAttempt} {target : PaymentAttemptStatus}
    {change : PaymentAttempt -> PaymentAttempt} (done : (do return change (← old.transition target)) = Except.ok new)
    (keeps : forall attempt, SameAttemptFields attempt (change attempt)) : SameAttemptFields old new := by
  unfold PaymentAttempt.transition at done
  split at done
  · cases done
    have moved : SameAttemptFields old { old with status := target } := ⟨rfl, rfl, rfl, rfl, rfl⟩
    exact moved.trans (keeps _)
  · cases done

theorem AttemptChanges.same {attempt changed : PaymentAttempt} (changes : AttemptChanges attempt changed) :
    SameAttemptFields attempt changed := by
  induction changes with
  | refl => exact ⟨rfl, rfl, rfl, rfl, rfl⟩
  | start _ started inductionHypothesis =>
      exact inductionHypothesis.trans (same_of_transition started (fun _ => ⟨rfl, rfl, rfl, rfl, rfl⟩))
  | succeed _ succeeded inductionHypothesis =>
      exact inductionHypothesis.trans (same_of_transition succeeded (fun _ => ⟨rfl, rfl, rfl, rfl, rfl⟩))
  | fail _ failed inductionHypothesis =>
      exact inductionHypothesis.trans (same_of_transition failed (fun _ => ⟨rfl, rfl, rfl, rfl, rfl⟩))

/-- The row of an attempt, under the name of its table. -/
abbrev attempt_row (attempt : PaymentAttempt) : Row .payment_attempts := PaymentAttemptModel.of_attempt attempt

/-- The update writes every field that the methods change. -/
theorem attempt_progress_values {attempt changed : PaymentAttempt} (changes : AttemptChanges attempt changed)
    (time : Datetime) : (Update.attempt_progress changed).values time (attempt_row attempt) = attempt_row changed := by
  have same := changes.same
  simp only [Update.values, attempt_row, PaymentAttemptModel.of_attempt, same.id, same.payment_id,
    same.attempt_number, same.correlation_id, same.created_at]

theorem attempt_loads {attempt : PaymentAttempt} {outcome : Except Error (List PaymentAttempt)}
    (accepting : first.refusing run = false) (shows_row : Shows run (attempt_row attempt) first)
    (session : Session admits run (Shows run (attempt_row attempt))
      (SqlAlchemyAttemptRepository.get_by_payment_id attempt.payment_id) first outcome last) :
    Gives admits (fun attempts => attempt ∈ attempts ∧ forall other, other ∈ attempts -> other.id = attempt.id -> other = attempt)
      outcome := by
  refine session.gives (fun rows _ => attempt_row attempt ∈ rows ∧
    forall other : PaymentAttemptModel, other ∈ rows -> other.id = attempt.id -> other = attempt_row attempt) ?_ ?_
  · intro answer middle selecting
    rcases session_select accepting selecting with ⟨meanwhile, gives⟩
    have seen : ((middle.tables .payment_attempts).cell attempt.id).visible run = some (attempt_row attempt) :=
      meanwhile.kept shows_row
    cases gives with
    | interrupted interruption admitted => exact .interrupted interruption admitted
    | returned rows listed =>
        refine .returned rows ⟨?_, ?_⟩
        · rw [listed, List.mem_insertionSort, Table.mem_select]
          exact ⟨attempt.id, seen, decide_eq_true rfl⟩
        · intro other member named
          rw [listed, List.mem_insertionSort, Table.mem_select] at member
          rcases member with ⟨key, visible, _⟩
          have same : other.id = key := meanwhile.keyed .payment_attempts key other (Cell.carries_of_visible visible)
          rw [← same, named, seen] at visible
          exact (Option.some.inj visible).symm
  · rintro rows middle ⟨listed, alone⟩ returned
    rcases returned.of_pure with ⟨rfl, rfl⟩
    refine .returned _ ⟨List.mem_map.mpr ⟨attempt_row attempt, listed, rfl⟩, ?_⟩
    intro other member named
    rcases List.mem_map.mp member with ⟨row, found, rfl⟩
    rw [alone row found named]
    rfl

theorem attempt_saves {attempt changed : PaymentAttempt} {outcome : Except Error Unit}
    (changes : AttemptChanges attempt changed) (storable : (attempt_row changed).storable = true)
    (accepting : first.refusing run = false) (shows_row : Shows run (attempt_row attempt) first)
    (session : Session admits run (Shows run (attempt_row attempt)) (SqlAlchemyAttemptRepository.update changed)
      first outcome last) :
    Gives admits (fun _ => Shows run (attempt_row changed) last) outcome ∧
      OnlyChanges run (Shows run (attempt_row attempt)) .payment_attempts attempt.id first last := by
  have same : changed.id = attempt.id := changes.same.id
  have selected : (Update.attempt_progress changed).condition (attempt_row attempt) = true :=
    decide_eq_true same.symm
  refine session_saves accepting shows_row selected (fun found matched => ?_)
    (attempt_progress_values changes) storable session
  have named : PaymentAttemptModel.id found = changed.id := of_decide_eq_true matched
  exact named.trans same

/-! ## Webhook deliveries -/

/-- Admissible sequences of the methods of a delivery. -/
inductive DeliveryChanges (delivery : WebhookDelivery) : WebhookDelivery -> Prop where
  | refl : DeliveryChanges delivery delivery
  | schedule_retry {old new : WebhookDelivery} {now next_retry_at : Datetime} {response_code : Option Nat}
      {response_body : Option Text} (earlier : DeliveryChanges delivery old)
      (scheduled : old.schedule_retry now next_retry_at response_code response_body = .ok new) :
      DeliveryChanges delivery new
  | record_failure {old new : WebhookDelivery} {now : Datetime} {response_code : Option Nat}
      {response_body : Option Text} {retry_policy : RetryPolicy} (earlier : DeliveryChanges delivery old)
      (recorded : old.record_failure now response_code response_body retry_policy = .ok new) :
      DeliveryChanges delivery new
  | mark_success {old new : WebhookDelivery} {now : Datetime} {response_code : Option Nat}
      {response_body : Option Text} (earlier : DeliveryChanges delivery old)
      (succeeded : old.mark_success now response_code response_body = .ok new) : DeliveryChanges delivery new
  | mark_failed {old new : WebhookDelivery} {now : Datetime} {response_code : Option Nat}
      {response_body : Option Text} (earlier : DeliveryChanges delivery old)
      (failed : old.mark_failed now response_code response_body = .ok new) : DeliveryChanges delivery new

/-- The fields that the update of a delivery does not mention. -/
structure SameDeliveryFields (before after : WebhookDelivery) : Prop where
  id : after.id = before.id
  payment_id : after.payment_id = before.payment_id
  event_type : after.event_type = before.event_type
  correlation_id : after.correlation_id = before.correlation_id
  created_at : after.created_at = before.created_at

theorem SameDeliveryFields.trans {first second third : WebhookDelivery} (before : SameDeliveryFields first second)
    (after : SameDeliveryFields second third) : SameDeliveryFields first third where
  id := after.id.trans before.id
  payment_id := after.payment_id.trans before.payment_id
  event_type := after.event_type.trans before.event_type
  correlation_id := after.correlation_id.trans before.correlation_id
  created_at := after.created_at.trans before.created_at

theorem same_of_delivery_transition {old new : WebhookDelivery} {target : WebhookDeliveryStatus}
    {change : WebhookDelivery -> WebhookDelivery}
    (done : (do return change (← old.transition target)) = Except.ok new)
    (keeps : forall delivery, SameDeliveryFields delivery (change delivery)) : SameDeliveryFields old new := by
  unfold WebhookDelivery.transition at done
  split at done
  · cases done
    have moved : SameDeliveryFields old { old with status := target } := ⟨rfl, rfl, rfl, rfl, rfl⟩
    exact moved.trans (keeps _)
  · cases done

theorem DeliveryChanges.same {delivery changed : WebhookDelivery} (changes : DeliveryChanges delivery changed) :
    SameDeliveryFields delivery changed := by
  induction changes with
  | refl => exact ⟨rfl, rfl, rfl, rfl, rfl⟩
  | schedule_retry _ scheduled inductionHypothesis =>
      exact inductionHypothesis.trans (same_of_delivery_transition scheduled (fun _ => ⟨rfl, rfl, rfl, rfl, rfl⟩))
  | @record_failure old new now _ _ retry_policy _ recorded inductionHypothesis =>
      refine inductionHypothesis.trans ?_
      unfold WebhookDelivery.record_failure at recorded
      split at recorded
      · cases due : retry_policy.next_retry_at old.attempt now with
        | error raised =>
            rw [due] at recorded
            cases recorded
        | ok time =>
            rw [due] at recorded
            exact same_of_delivery_transition recorded (fun _ => ⟨rfl, rfl, rfl, rfl, rfl⟩)
      · exact same_of_delivery_transition recorded (fun _ => ⟨rfl, rfl, rfl, rfl, rfl⟩)
  | mark_success _ succeeded inductionHypothesis =>
      exact inductionHypothesis.trans (same_of_delivery_transition succeeded (fun _ => ⟨rfl, rfl, rfl, rfl, rfl⟩))
  | mark_failed _ failed inductionHypothesis =>
      exact inductionHypothesis.trans (same_of_delivery_transition failed (fun _ => ⟨rfl, rfl, rfl, rfl, rfl⟩))

abbrev delivery_row (delivery : WebhookDelivery) : Row .webhook_deliveries := WebhookDeliveryModel.to_model delivery

theorem delivery_progress_values {delivery changed : WebhookDelivery} (changes : DeliveryChanges delivery changed)
    (time : Datetime) :
    (Update.delivery_progress changed).values time (delivery_row delivery) = delivery_row changed := by
  have same := changes.same
  simp only [Update.values, delivery_row, WebhookDeliveryModel.to_model, same.id, same.payment_id, same.event_type,
    same.correlation_id, same.created_at]

theorem delivery_loads {delivery : WebhookDelivery} {outcome : Except Error (Option WebhookDelivery)}
    (accepting : first.refusing run = false) (shows_row : Shows run (delivery_row delivery) first)
    (session : Session admits run (Shows run (delivery_row delivery))
      (SqlAlchemyWebhookDeliveryRepository.get delivery.id) first outcome last) :
    Gives admits (fun found => found = some delivery) outcome := by
  have selected : (Query.delivery_by_id delivery.id).condition (delivery_row delivery) = true := decide_eq_true rfl
  refine session.gives (fun rows _ => rows = [delivery_row delivery]) (fun outcome middle selecting =>
    session_select_row accepting shows_row selected ?_ selecting) ?_
  · intro world key found keyed _ _ visible matched
    have named : WebhookDeliveryModel.id found = delivery.id := of_decide_eq_true matched
    exact (keyed .webhook_deliveries key found (Cell.carries_of_visible visible)).symm.trans named
  · rintro _ middle rfl returned
    rcases returned.of_pure with ⟨rfl, rfl⟩
    exact .returned _ rfl

theorem delivery_saves {delivery changed : WebhookDelivery} {outcome : Except Error Unit}
    (changes : DeliveryChanges delivery changed) (storable : (delivery_row changed).storable = true)
    (accepting : first.refusing run = false) (shows_row : Shows run (delivery_row delivery) first)
    (session : Session admits run (Shows run (delivery_row delivery)) (SqlAlchemyWebhookDeliveryRepository.update changed)
      first outcome last) :
    Gives admits (fun _ => Shows run (delivery_row changed) last) outcome ∧
      OnlyChanges run (Shows run (delivery_row delivery)) .webhook_deliveries delivery.id first last := by
  have same : changed.id = delivery.id := changes.same.id
  have selected : (Update.delivery_progress changed).condition (delivery_row delivery) = true :=
    decide_eq_true same.symm
  refine session_saves accepting shows_row selected (fun found matched => ?_)
    (delivery_progress_values changes) storable session
  have named : WebhookDeliveryModel.id found = changed.id := of_decide_eq_true matched
  exact named.trans same

/-! ## Whole lives of rows -/

/-- A row is read on by its own session, or by another one after a commit, and
is not changed in between. -/
inductive Handover (run : RunId) {name : TableName} (row : Row name) (before : World) : RunId -> World -> Prop where
  | same {after : World} (meanwhile : Meanwhile run (Shows run row) before after) : Handover run row before run after
  | committed {reader : RunId} {middle published after : World} {choice : Choice}
      (meanwhile : Meanwhile run (Shows run row) before middle)
      (commits : World.exec run .commit choice middle = some (published, .ok ()))
      (kept : after.cell name row.id = published.cell name row.id)
      (free : ¬ (after.cell name row.id).HeldBy reader) : Handover run row before reader after

theorem Handover.shows (handover : Handover run row before reader after) (shows_row : Shows run row before) :
    Shows reader row after := by
  cases handover with
  | same meanwhile => exact meanwhile.kept shows_row
  | committed meanwhile commits kept free =>
      have published := (meanwhile.kept shows_row).committed commits (kept ▸ free)
      rw [Shows, kept]
      exact published

/-- A stored payment is loaded by its identifier and by its key with the same
fields, and neither the insertion nor the reconstruction raises. -/
structure PaymentSurvives (admits : Interruption -> Prop) (payment : Payment) (row : PaymentModel) : Prop where
  inserted : forall inserter first second outcome, first.refusing inserter = false ->
    row.id ∉ (first.tables .payments).keys ->
    Session admits inserter (fun world => row.id ∉ (world.tables .payments).keys)
      (SqlAlchemyPaymentRepository.try_insert payment) first outcome second ->
    Gives admits (fun inserted => inserted = some payment ∧ @Shows inserter .payments row second ∨
      inserted = none ∧ second.conflicts inserter row.idempotency_key = true) outcome
  loaded : forall inserter reader first second third last result outcome, first.refusing inserter = false ->
    row.id ∉ (first.tables .payments).keys ->
    Session admits inserter (fun world => row.id ∉ (world.tables .payments).keys)
      (SqlAlchemyPaymentRepository.try_insert payment) first (.ok (some result)) second ->
    @Handover inserter .payments row second reader third -> third.refusing reader = false ->
    Session admits reader (@Shows reader .payments row) (SqlAlchemyPaymentRepository.get payment.id) third outcome last ∨
      Session admits reader (@Shows reader .payments row)
        (SqlAlchemyPaymentRepository.get_by_idempotency_key payment.idempotency_key.value) third outcome last ->
    Gives admits (fun found => Exists fun loaded => found = some loaded ∧ SamePayment loaded payment) outcome

/-- An attempt that has been added, changed and saved is loaded as it is in
memory, and saving it changes its own row only. -/
structure AttemptSurvives (admits : Interruption -> Prop) (attempt changed : PaymentAttempt) : Prop where
  saved : forall updater first last outcome, first.refusing updater = false ->
    Shows updater (attempt_row attempt) first ->
    Session admits updater (Shows updater (attempt_row attempt)) (SqlAlchemyAttemptRepository.update changed)
      first outcome last ->
    Gives admits (fun _ => Shows updater (attempt_row changed) last) outcome ∧
      OnlyChanges updater (Shows updater (attempt_row attempt)) .payment_attempts attempt.id first last
  loaded : forall adder updater reader first added second updated third last outcome,
    attempt.id ∉ (first.tables .payment_attempts).keys ->
    Session admits adder (fun world => attempt.id ∉ (world.tables .payment_attempts).keys)
      (SqlAlchemyAttemptRepository.add attempt) first (.ok ()) added ->
    Handover adder (attempt_row attempt) added updater second -> second.refusing updater = false ->
    Session admits updater (Shows updater (attempt_row attempt)) (SqlAlchemyAttemptRepository.update changed)
      second (.ok ()) updated ->
    Handover updater (attempt_row changed) updated reader third -> third.refusing reader = false ->
    Session admits reader (Shows reader (attempt_row changed))
      (SqlAlchemyAttemptRepository.get_by_payment_id changed.payment_id) third outcome last ->
    Gives admits (fun attempts => changed ∈ attempts ∧ forall other, other ∈ attempts -> other.id = changed.id -> other = changed)
      outcome

structure DeliverySurvives (admits : Interruption -> Prop) (delivery changed : WebhookDelivery) : Prop where
  saved : forall updater first last outcome, first.refusing updater = false ->
    Shows updater (delivery_row delivery) first ->
    Session admits updater (Shows updater (delivery_row delivery)) (SqlAlchemyWebhookDeliveryRepository.update changed)
      first outcome last ->
    Gives admits (fun _ => Shows updater (delivery_row changed) last) outcome ∧
      OnlyChanges updater (Shows updater (delivery_row delivery)) .webhook_deliveries delivery.id first last
  loaded : forall adder updater reader first added second updated third last outcome,
    delivery.id ∉ (first.tables .webhook_deliveries).keys ->
    Session admits adder (fun world => delivery.id ∉ (world.tables .webhook_deliveries).keys)
      (SqlAlchemyWebhookDeliveryRepository.add delivery) first (.ok ()) added ->
    Handover adder (delivery_row delivery) added updater second -> second.refusing updater = false ->
    Session admits updater (Shows updater (delivery_row delivery)) (SqlAlchemyWebhookDeliveryRepository.update changed)
      second (.ok ()) updated ->
    Handover updater (delivery_row changed) updated reader third -> third.refusing reader = false ->
    Session admits reader (Shows reader (delivery_row changed)) (SqlAlchemyWebhookDeliveryRepository.get changed.id)
      third outcome last ->
    Gives admits (fun found => found = some changed) outcome

theorem Gives.of_ok {X : Type} {value : X -> Prop} {found : X} (gives : Gives admits value (.ok found)) : value found := by
  cases gives with
  | returned _ holds => exact holds

theorem payment_survives {payment : Payment} {row : PaymentModel}
    (stored : PaymentModel.of_payment payment = some row) (storable : row.storable = true) :
    PaymentSurvives admits payment row where
  inserted := fun _ _ _ _ accepting unused session => try_insert_shows stored storable accepting unused session
  loaded := by
    intro inserter reader first second third last result outcome accepting unused inserting handover accepting' loading
    have inserted := (try_insert_shows stored storable accepting unused inserting).of_ok
    rcases inserted with ⟨_, shows_row⟩ | ⟨impossible, _⟩
    · have seen := handover.shows shows_row
      rcases loading with by_id | by_key
      · exact get_loads stored storable accepting' seen by_id
      · exact get_by_idempotency_key_loads stored storable accepting' seen by_key
    · cases impossible

theorem attempt_survives {attempt changed : PaymentAttempt} (storable : (attempt_row attempt).storable = true)
    (changes : AttemptChanges attempt changed) (storable' : (attempt_row changed).storable = true) :
    AttemptSurvives admits attempt changed where
  saved := fun _ _ _ _ accepting shows_row session => attempt_saves changes storable' accepting shows_row session
  loaded := by
    intro adder updater reader first added second updated third last outcome unused adding handover accepting updating
      handover' accepting' loading
    have seen := handover.shows (session_add storable unused adding).2
    have saved := (attempt_saves changes storable' accepting seen updating).1.of_ok
    exact attempt_loads accepting' (handover'.shows saved) loading

theorem delivery_survives {delivery changed : WebhookDelivery} (storable : (delivery_row delivery).storable = true)
    (changes : DeliveryChanges delivery changed) (storable' : (delivery_row changed).storable = true) :
    DeliverySurvives admits delivery changed where
  saved := fun _ _ _ _ accepting shows_row session => delivery_saves changes storable' accepting shows_row session
  loaded := by
    intro adder updater reader first added second updated third last outcome unused adding handover accepting updating
      handover' accepting' loading
    have seen := handover.shows (session_add storable unused adding).2
    have saved := (delivery_saves changes storable' accepting seen updating).1.of_ok
    exact delivery_loads accepting' (handover'.shows saved) loading

/-- Persistence loses no field, and a call that nothing interrupts returns. -/
theorem entities_survive (admits : Interruption -> Prop) {payment : Payment} {row : PaymentModel} {attempt attempt' : PaymentAttempt}
    {delivery delivery' : WebhookDelivery} (stored : PaymentModel.of_payment payment = some row)
    (payment_storable : row.storable = true) (attempt_storable : (attempt_row attempt).storable = true)
    (attempt_changes : AttemptChanges attempt attempt')
    (attempt_storable' : (attempt_row attempt').storable = true)
    (delivery_storable : (delivery_row delivery).storable = true)
    (delivery_changes : DeliveryChanges delivery delivery')
    (delivery_storable' : (delivery_row delivery').storable = true) :
    PaymentSurvives admits payment row ∧ AttemptSurvives admits attempt attempt' ∧
      DeliverySurvives admits delivery delivery' :=
  ⟨payment_survives stored payment_storable, attempt_survives attempt_storable attempt_changes attempt_storable',
    delivery_survives delivery_storable delivery_changes delivery_storable'⟩

def kept_payment : Payment :=
  Payment.create 1 ⟨"order-1", by decide +kernel⟩ ⟨.finite false 500 (-2), .EUR, rfl⟩ none (.object [])
    "https://shop" none 0

def kept_row : PaymentModel where
  id := 1
  idempotency_key := "order-1"
  amount := .finite false 500 (-2)
  currency := "EUR"
  description := none
  metadata := .object []
  status := .PENDING
  webhook_url := "https://shop"
  correlation_id := none
  created_at := 0
  processed_at := none
  version := 0

def kept_attempt : PaymentAttempt := PaymentAttempt.create 2 1 1 none 0

def kept_delivery : WebhookDelivery := WebhookDelivery.create 3 1 "payment.succeeded" none 0

/-- The delivery after a refused send. -/
def retried_delivery : WebhookDelivery :=
  { kept_delivery with attempt := 2, next_retry_at := some 15, response_code := some 500, updated_at := 5 }

def started_attempt : PaymentAttempt := { kept_attempt with status := .PROCESSING, updated_at := 1 }

/-- While nobody else acts, a world keeps its constraints. -/
theorem unattended {kept : World -> Prop} (keyed : World.Keyed world) (unique : UniqueKeys world) :
    Meanwhile run kept world world where
  accepting := rfl
  keyed := keyed
  unique := unique
  kept := id

theorem unique_of_vacant {id : UUID} (others : forall key, key ≠ id -> world.cell .payments key = Cell.vacant) :
    UniqueKeys world := by
  have named : forall (run : RunId) (key : UUID) (row : PaymentModel),
      (world.cell .payments key).visible run = some row -> key = id := by
    intro run key row visible
    by_contra different
    rw [others key different] at visible
    cases visible
  intro run key other row found visible visible' _
  exact (named run key row visible).trans (named run other found visible').symm

/-- A session that nobody disturbs and nothing interrupts. -/
abbrev Uninterrupted {X : Type} (run : RunId) (kept : World -> Prop) (program : Program X) (first : World)
    (outcome : Except Error X) (last : World) : Prop :=
  Session (fun _ => False) run kept program first outcome last

theorem uninterrupted_call {op : Op} {choice : Choice} {kept : World -> Prop} {answer : op.Answer}
    (calm : choice.interruption = none) (keyed : World.Keyed world) (unique : UniqueKeys world)
    (ran : World.exec run op choice world = some (after, .ok answer)) :
    Uninterrupted run kept (await op) world (.ok answer) after :=
  .call (unattended keyed unique) ⟨choice, by simp [calm], ran⟩ (.ret answer after)

/-! Session 0 inserts a payment and commits it. -/

def inserted_world : World :=
  World.initial.set_table .payments ((World.initial.tables .payments).put 0 1 kept_row)

def published_world : World := inserted_world.commit 0

theorem kept_row_inserted : World.exec 0 (.insert_on_conflict_do_nothing (some kept_row)) (Choice.calm 0 0) World.initial =
    some (inserted_world, .ok 1) := by
  with_unfolding_all rfl

theorem kept_row_published :
    World.exec 0 .commit (Choice.calm 0 0) inserted_world = some (published_world, .ok ()) :=
  rfl

theorem inserted_vacant {key : UUID} (different : key ≠ 1) : inserted_world.cell .payments key = Cell.vacant := by
  rw [inserted_world, World.cell_set_table_self, Table.put_cell_of_ne _ different]
  rfl

theorem inserted_keyed : World.Keyed inserted_world :=
  World.keyed_initially.executed (World.exec_executed kept_row_inserted)

theorem inserted_unique : UniqueKeys inserted_world :=
  unique_of_vacant (fun _ => inserted_vacant)

theorem published_keyed : World.Keyed published_world :=
  inserted_keyed.executed (World.exec_executed kept_row_published)

theorem published_unique : UniqueKeys published_world :=
  unique_of_vacant (fun key different => by
    rw [published_world, World.cell_commit, inserted_vacant different]
    rfl)

/-- Session 1 reads what session 0 has inserted and committed. -/
theorem kept_payment_read : exists loaded,
    Uninterrupted 0 (fun world => kept_row.id ∉ (world.tables .payments).keys)
      (SqlAlchemyPaymentRepository.try_insert kept_payment) World.initial (.ok (some kept_payment)) inserted_world ∧
    Uninterrupted 1 (@Shows 1 .payments kept_row) (SqlAlchemyPaymentRepository.get kept_payment.id) published_world
      (.ok (some loaded)) published_world ∧
    Uninterrupted 1 (@Shows 1 .payments kept_row)
      (SqlAlchemyPaymentRepository.get_by_idempotency_key kept_payment.idempotency_key.value) published_world
      (.ok (some loaded)) published_world := by
  have stored : PaymentModel.of_payment kept_payment = some kept_row := rfl
  have storable : kept_row.storable = true := by decide +kernel
  rcases reconstructed stored storable with ⟨loaded, load, _⟩
  have mapped : Uninterrupted 1 (@Shows 1 .payments kept_row)
      (ofExcept kept_row.to_domain >>= fun payment => pure (some payment)) published_world (.ok (some loaded))
      published_world := by
    rw [load]
    exact .ret _ _
  have by_id : World.exec 1 (.select .payments (.payment_by_id 1)) (Choice.calm 1 0) published_world =
      some (published_world, .ok [kept_row]) := by
    with_unfolding_all rfl
  have by_key : World.exec 1 (.select .payments (.payment_by_idempotency_key "order-1")) (Choice.calm 1 0)
      published_world = some (published_world, .ok [kept_row]) := by
    with_unfolding_all rfl
  refine ⟨loaded, ?_, ?_, ?_⟩
  · rw [SqlAlchemyPaymentRepository.try_insert, stored]
    exact .bind (uninterrupted_call rfl World.keyed_initially (@unique_of_vacant _ 0 (fun _ _ => rfl)) kept_row_inserted)
      (.ret _ _)
  · exact .bind (uninterrupted_call rfl published_keyed published_unique by_id) mapped
  · exact .bind (uninterrupted_call rfl published_keyed published_unique by_key) mapped

/-- A session adds an entity, saves its progress and loads it, and nobody
touches the payments. -/
structure Saves {X : Type} (adding updating : Program Unit) (loading : Program X) (added updated : World)
    (loaded : X) : Prop where
  adds : forall kept, Uninterrupted 0 kept adding World.initial (.ok ()) added
  waits : forall kept, Meanwhile 0 kept added added
  saves : forall kept, Uninterrupted 0 kept updating added (.ok ()) updated
  rests : forall kept, Meanwhile 0 kept updated updated
  loads : forall kept, Uninterrupted 0 kept loading updated (.ok loaded) updated
  accepts : added.refusing 0 = false ∧ updated.refusing 0 = false

theorem saves_of_exec {X : Type} {added updated : World} {statement : Update name} {query : Query name}
    {rows loaded : List (Row name)} {value : List (Row name) -> X}
    (adds : World.exec 0 (.add name row) (Choice.calm 0 0) World.initial = some (added, .ok ()))
    (updates : World.exec 0 (.update name statement) (Choice.calm 5 0) added = some (updated, .ok rows))
    (selects : World.exec 0 (.select name query) (Choice.calm 6 0) updated = some (updated, .ok loaded))
    (empty : forall key, added.cell .payments key = Cell.vacant)
    (empty' : forall key, updated.cell .payments key = Cell.vacant)
    (accepts : added.refusing 0 = false ∧ updated.refusing 0 = false) :
    Saves (await (.add name row)) (await (.update name statement) >>= fun _ => pure ())
      (await (.select name query) >>= fun rows => pure (value rows)) added updated (value loaded) := by
  have keyed := World.keyed_initially.executed (World.exec_executed adds)
  have keyed' := keyed.executed (World.exec_executed updates)
  have unique : UniqueKeys added := @unique_of_vacant _ 0 (fun key _ => empty key)
  have unique' : UniqueKeys updated := @unique_of_vacant _ 0 (fun key _ => empty' key)
  exact {
    adds := fun _ => uninterrupted_call rfl World.keyed_initially (@unique_of_vacant _ 0 (fun _ _ => rfl)) adds
    waits := fun _ => unattended keyed unique
    saves := fun _ => .bind (uninterrupted_call rfl keyed unique updates) (.ret _ _)
    rests := fun _ => unattended keyed' unique'
    loads := fun _ => .bind (uninterrupted_call rfl keyed' unique' selects) (.ret _ _)
    accepts := accepts }

theorem kept_attempt_saved : exists added updated,
    Saves (SqlAlchemyAttemptRepository.add kept_attempt) (SqlAlchemyAttemptRepository.update started_attempt)
      (SqlAlchemyAttemptRepository.get_by_payment_id 1) added updated [started_attempt] := by
  have ran : exists added updated,
      World.exec 0 (.add .payment_attempts (attempt_row kept_attempt)) (Choice.calm 0 0) World.initial =
        some (added, .ok ()) ∧
      World.exec 0 (.update .payment_attempts (.attempt_progress started_attempt)) (Choice.calm 5 0) added =
        some (updated, .ok [attempt_row started_attempt]) ∧
      World.exec 0 (.select .payment_attempts (.attempts_by_payment_id 1)) (Choice.calm 6 0) updated =
        some (updated, .ok [attempt_row started_attempt]) ∧
      (forall key, added.cell .payments key = Cell.vacant) ∧ (forall key, updated.cell .payments key = Cell.vacant) ∧
      added.refusing 0 = false ∧ updated.refusing 0 = false :=
    ⟨_, _, rfl, rfl, by with_unfolding_all rfl, fun _ => rfl, fun _ => rfl, rfl, rfl⟩
  rcases ran with ⟨added, updated, adds, updates, selects, empty, empty', accepting⟩
  exact ⟨added, updated, saves_of_exec adds updates selects empty empty' accepting⟩

theorem kept_delivery_saved : exists added updated,
    Saves (SqlAlchemyWebhookDeliveryRepository.add kept_delivery)
      (SqlAlchemyWebhookDeliveryRepository.update retried_delivery) (SqlAlchemyWebhookDeliveryRepository.get 3)
      added updated (some retried_delivery) := by
  have ran : exists added updated,
      World.exec 0 (.add .webhook_deliveries (delivery_row kept_delivery)) (Choice.calm 0 0) World.initial =
        some (added, .ok ()) ∧
      World.exec 0 (.update .webhook_deliveries (.delivery_progress retried_delivery)) (Choice.calm 5 0) added =
        some (updated, .ok [delivery_row retried_delivery]) ∧
      World.exec 0 (.select .webhook_deliveries (.delivery_by_id 3)) (Choice.calm 6 0) updated =
        some (updated, .ok [delivery_row retried_delivery]) ∧
      (forall key, added.cell .payments key = Cell.vacant) ∧ (forall key, updated.cell .payments key = Cell.vacant) ∧
      added.refusing 0 = false ∧ updated.refusing 0 = false :=
    ⟨_, _, rfl, rfl, by with_unfolding_all rfl, fun _ => rfl, fun _ => rfl, rfl, rfl⟩
  rcases ran with ⟨added, updated, adds, updates, selects, empty, empty', accepting⟩
  exact ⟨added, updated, saves_of_exec adds updates selects empty empty' accepting⟩

/-- Sessions that nothing interrupts store a payment, an attempt and a delivery
and load them again. -/
theorem kept_entities_survive :
    (exists inserted published loaded,
      Uninterrupted 0 (fun world => kept_row.id ∉ (world.tables .payments).keys)
        (SqlAlchemyPaymentRepository.try_insert kept_payment) World.initial (.ok (some kept_payment)) inserted ∧
      World.exec 0 .commit (Choice.calm 0 0) inserted = some (published, .ok ()) ∧
      Uninterrupted 1 (@Shows 1 .payments kept_row) (SqlAlchemyPaymentRepository.get kept_payment.id) published
        (.ok (some loaded)) published ∧
      Uninterrupted 1 (@Shows 1 .payments kept_row)
        (SqlAlchemyPaymentRepository.get_by_idempotency_key kept_payment.idempotency_key.value) published
        (.ok (some loaded)) published ∧ SamePayment loaded kept_payment) ∧
    (exists added updated attempts,
      Saves (SqlAlchemyAttemptRepository.add kept_attempt) (SqlAlchemyAttemptRepository.update started_attempt)
        (SqlAlchemyAttemptRepository.get_by_payment_id 1) added updated attempts ∧ started_attempt ∈ attempts ∧
      Shows 0 (attempt_row started_attempt) updated) ∧
    (exists added updated found,
      Saves (SqlAlchemyWebhookDeliveryRepository.add kept_delivery)
        (SqlAlchemyWebhookDeliveryRepository.update retried_delivery) (SqlAlchemyWebhookDeliveryRepository.get 3)
        added updated found ∧ found = some retried_delivery ∧ Shows 0 (delivery_row retried_delivery) updated) := by
  have started : kept_attempt.start 1 = .ok started_attempt := rfl
  have retried : kept_delivery.schedule_retry 5 15 (some 500) none = .ok retried_delivery := rfl
  have stored : PaymentModel.of_payment kept_payment = some kept_row := rfl
  rcases entities_survive (fun _ => False) stored (by decide +kernel) (by decide) (.start .refl started) (by decide)
    (by decide +kernel) (.schedule_retry .refl retried) (by decide +kernel) with ⟨payment, attempt, delivery⟩
  refine ⟨?_, ?_, ?_⟩
  · rcases kept_payment_read with ⟨loaded, inserting, by_id, by_key⟩
    have handover : @Handover 0 .payments kept_row inserted_world 1 published_world :=
      .committed (unattended inserted_keyed inserted_unique) kept_row_published rfl (by
        rintro ⟨draft, impossible⟩
        cases impossible)
    rcases (payment.loaded 0 1 _ _ _ _ _ _ rfl (by decide) inserting handover rfl (.inl by_id)).of_ok with
      ⟨_, found, fields⟩
    cases found
    exact ⟨inserted_world, published_world, loaded, inserting, kept_row_published, by_id, by_key, fields⟩
  · rcases kept_attempt_saved with ⟨added, updated, saved⟩
    have seen := (session_add (by decide) (by decide) (saved.adds _)).2
    have loaded := (attempt.loaded 0 0 0 _ _ _ _ _ _ _ (by decide) (saved.adds _) (.same (saved.waits _)) saved.accepts.1
      (saved.saves _) (.same (saved.rests _)) saved.accepts.2 (saved.loads _)).of_ok
    exact ⟨added, updated, _, saved, loaded.1, (attempt.saved 0 _ _ _ saved.accepts.1 seen (saved.saves _)).1.of_ok⟩
  · rcases kept_delivery_saved with ⟨added, updated, saved⟩
    have seen := (session_add (by decide +kernel) (by decide) (saved.adds _)).2
    have loaded := (delivery.loaded 0 0 0 _ _ _ _ _ _ _ (by decide) (saved.adds _) (.same (saved.waits _)) saved.accepts.1
      (saved.saves _) (.same (saved.rests _)) saved.accepts.2 (saved.loads _)).of_ok
    exact ⟨added, updated, _, saved, loaded, (delivery.saved 0 _ _ _ saved.accepts.1 seen (saved.saves _)).1.of_ok⟩

end Properties
end Payments
