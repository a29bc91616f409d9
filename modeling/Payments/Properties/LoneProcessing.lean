import Payments.Concurrency.Alone
import Payments.Properties.HandlerProgress
import Payments.Properties.PaymentOrigins

namespace Payments
namespace Properties

open Concurrency Domain Infrastructure Application Prog UnitOfWork Payments.System

/-!
# The processing of a payment, left alone

A run that processes a pending payment whose row nobody holds can be led to
its normal end: no statement has to wait, no value is refused by a column, and
the payment ends with whatever answer the gateway gives.
-/

variable {deployment : Deployment} {world after : World} {run : RunId} {key : UUID} {row draft : PaymentModel}
  {attempt : Option PaymentAttemptModel} {delivery : Option WebhookDeliveryModel} {message : Message} {X : Type}

/-- By undisturbed operations of its own the run can be brought to a value of the program. -/
abbrev Led (deployment : Deployment) (run : RunId) (post : X -> World -> Prop) (program : Program X) (world : World) :
    Prop :=
  Machine.Alone (service deployment) (fun choice : Choice => choice.interruption = none) run post program world

theorem led_perform {op : Op} {choice : Choice} {post : op.Answer -> World -> Prop} {value : op.Answer}
    (executed : World.exec run op choice world = some (after, .ok value)) (undisturbed : choice.interruption = none)
    (known : post value after) : Led deployment run post (await op) world :=
  Machine.Alone.perform undisturbed executed known

/-! ## Statements that succeed -/

theorem select_performs {name : TableName} (query : Query name) (accepting : world.refusing run = false) :
    World.exec run (.select name query) (.calm 0 0) world =
      some (world, .ok (((world.tables name).select run query.condition).insertionSort
        (fun left right => query.before left right))) := by
  simp only [World.exec, World.exec_select, World.statement, accepting, Bool.false_eq_true, if_false]
  rfl

/-- An update that meets no row of another run writes what its columns can hold. -/
theorem update_performs {name : TableName} {statement : Update name} (accepting : world.refusing run = false)
    (free : forall found row, (world.cell name found).visible run = some row -> statement.condition row = true ->
      (world.cell name found).heldByOther run = false)
    (storable : forall found row, (world.cell name found).visible run = some row -> statement.condition row = true ->
      Row.storable (statement.values 0 row) = true) :
    Exists fun after => Exists fun rows =>
      World.exec run (.update name statement) (.calm 0 0) world = some (after, .ok rows) := by
  have goes : (World.exec run (.update name statement) (.calm 0 0) world).isSome = true := update_proceeds rfl free
  rcases Option.isSome_iff_exists.mp goes with ⟨⟨after, answer⟩, executed⟩
  have opened := executed
  simp only [World.exec, World.exec_update, World.statement, accepting, Bool.false_eq_true, if_false] at opened
  rcases Option.map_eq_some_iff.mp opened with ⟨⟨table, rows⟩, updated, same⟩
  have stored : rows.all Row.storable = true := by
    refine List.all_eq_true.mpr (fun written listed => ?_)
    rcases (Table.mem_update_rows updated).mp listed with ⟨found, old, seen, selected, rfl⟩
    exact storable found old seen selected
  rw [if_pos stored] at same
  cases same
  exact ⟨_, rows, executed⟩

/-- A row that fits its columns is added under an identifier that was never used. -/
theorem add_performs {name : TableName} (new : Row name) (storable : Row.storable new = true)
    (unlisted : Row.id new ∉ (world.tables name).keys) :
    World.exec run (.add name new) (.calm 0 0) world =
      some (world.set_table name ((world.tables name).put run (Row.id new) new), .ok ()) := by
  simp only [World.exec, World.exec_add, storable, decide_eq_true unlisted, Bool.and_self, if_true]

/-- An identifier that is new everywhere. -/
theorem new_identifier (world : World) : Exists fun id => id ∉ world.issued ∧
    forall name, id ∉ (world.tables name).keys := by
  rcases Infinite.exists_notMem_finset (world.issued ++ (world.tables .payments).keys ++
    (world.tables .payment_attempts).keys ++ (world.tables .webhook_deliveries).keys ++
    (world.tables .outbox_messages).keys).toFinset with ⟨id, fresh⟩
  simp only [List.mem_toFinset, List.mem_append, not_or] at fresh
  refine ⟨id, fresh.1.1.1.1, fun name => ?_⟩
  cases name with
  | payments => exact fresh.1.1.1.2
  | payment_attempts => exact fresh.1.1.2
  | webhook_deliveries => exact fresh.1.2
  | outbox_messages => exact fresh.2

/-! ## A run that holds the payment -/

/-- A working run whose session accepts statements and whose message is not answered yet. -/
structure Lone (run : RunId) (key : UUID) (row draft : PaymentModel) (attempt : Option PaymentAttemptModel)
    (delivery : Option WebhookDeliveryModel) (message : Message) (world : World) : Prop where
  working : Working run key row draft attempt delivery world
  keyed : World.Keyed world
  accepting : world.refusing run = false
  unacked : world.broker.unacked run = some message

/-- Operations of a lone run that change neither the tables nor the session. -/
theorem Lone.of_same (lone : Lone run key row draft attempt delivery message world) (tables : after.tables = world.tables)
    (refusing : after.refusing run = world.refusing run) (broker : after.broker = world.broker) :
    Lone run key row draft attempt delivery message after where
  working := lone.working.of_same tables refusing
  keyed := lone.keyed.of_tables tables
  accepting := refusing.trans lone.accepting
  unacked := by rw [broker, lone.unacked]

theorem Lone.now (lone : Lone run key row draft attempt delivery message world) :
    Led deployment run (fun _ => Lone run key row draft attempt delivery message) (await .now) world := by
  have executed : World.exec run .now (.calm 0 0) world = some (world.note (.run run) (.clock_read 0), .ok 0) := rfl
  exact led_perform executed rfl (lone.of_same rfl rfl rfl)

theorem Lone.uuid7 (lone : Lone run key row draft attempt delivery message world) :
    Led deployment run (fun id after => Lone run key row draft attempt delivery message after ∧
      forall name, id ∉ (after.tables name).keys) (await .uuid7) world := by
  rcases new_identifier world with ⟨id, fresh, unlisted⟩
  have executed : World.exec run .uuid7 (.calm 0 id) world =
      some ({ world with issued := id :: world.issued }, .ok id) := by
    simp only [World.exec]
    exact if_neg fresh
  exact led_perform executed rfl ⟨lone.of_same rfl rfl rfl, unlisted⟩

/-- A payment that was pending has no attempt yet. -/
theorem Lone.attempts (lone : Lone run key row draft none none message world) (untried : Untried key world) :
    Led deployment run (fun existing after => existing = [] ∧ Lone run key row draft none none message after)
      (SqlAlchemyAttemptRepository.get_by_payment_id key) world := by
  have none_selected : (world.tables .payment_attempts).select run (Query.attempts_by_payment_id key).condition = [] := by
    refine List.eq_nil_iff_forall_not_mem.mpr (fun found listed => ?_)
    rcases Table.mem_select.mp listed with ⟨id, seen, selected⟩
    have away : Away .payment_attempts run world := lone.working.attempts
    have committed : (world.cell .payment_attempts id).committed = some found :=
      (Cell.visible_of_not_heldBy (away id)).symm.trans seen
    exact untried.attempts id found committed (of_decide_eq_true selected)
  have executed := @select_performs world run .payment_attempts (.attempts_by_payment_id key) lone.accepting
  rw [none_selected] at executed
  have selected : Led deployment run (fun (rows : List PaymentAttemptModel) after => rows = [] ∧
      Lone run key row draft none none message after)
      (await (.select .payment_attempts (.attempts_by_payment_id key))) world := led_perform executed rfl ⟨rfl, lone⟩
  refine Machine.Alone.bind selected (fun rows after known => Machine.Alone.ret ?_)
  rw [known.1]
  exact ⟨rfl, known.2⟩

/-- The gateway answers with any result. -/
theorem Lone.charge (lone : Lone run key row draft attempt delivery message world) (payment_id : UUID) (amount : Money)
    (text : String) (result : GatewayResult) {post : X -> World -> Prop} {rest : GatewayResult -> Program X}
    (answered : forall after, Lone run key row draft attempt delivery message after ->
      Led deployment run post (rest result) after) :
    Led deployment run post (do
      await (.charge_call payment_id amount text)
      let result : GatewayResult ← await (.charge_return payment_id)
      rest result) world := by
  have called : World.exec run (.charge_call payment_id amount text) (.calm 0 0) world =
      some (world.note (.run run) (.charge_called payment_id amount text), .ok ()) := rfl
  have calling : Led deployment run (fun _ => Lone run key row draft attempt delivery message)
      (await (.charge_call payment_id amount text)) world := led_perform called rfl (lone.of_same rfl rfl rfl)
  refine Machine.Alone.bind calling (fun _ middle known => ?_)
  have returned : World.exec run (.charge_return payment_id) { Choice.calm 0 0 with gateway := result } middle =
      some (middle.note (.run run) (.charge_returned payment_id result), .ok result) := rfl
  have answering : Led deployment run (fun value after => value = result ∧
      Lone run key row draft attempt delivery message after) (await (.charge_return payment_id)) middle :=
    led_perform returned rfl ⟨rfl, known.of_same rfl rfl rfl⟩
  refine Machine.Alone.bind answering (fun value after known => ?_)
  rcases known with ⟨rfl, lone⟩
  exact answered after lone

/-! ## The writes of a lone run -/

theorem Lone.add_attempt (lone : Lone run key row draft none none message world) (new : PaymentAttempt)
    (storable : (PaymentAttemptModel.of_attempt new).storable = true)
    (unlisted : new.id ∉ (world.tables .payment_attempts).keys) :
    Led deployment run (fun _ => Lone run key row draft (some (PaymentAttemptModel.of_attempt new)) none message)
      (SqlAlchemyAttemptRepository.add new) world := by
  have executed := @add_performs world run .payment_attempts (PaymentAttemptModel.of_attempt new) storable unlisted
  have known := World.exec_executed executed
  exact led_perform executed rfl
    ⟨lone.working.added_attempt known, lone.keyed.executed known, lone.accepting, lone.unacked⟩

theorem Lone.add_delivery (lone : Lone run key row draft attempt none message world) (new : WebhookDelivery)
    (storable : (WebhookDeliveryModel.to_model new).storable = true)
    (unlisted : new.id ∉ (world.tables .webhook_deliveries).keys) :
    Led deployment run (fun _ => Lone run key row draft attempt (some (WebhookDeliveryModel.to_model new)) message)
      (SqlAlchemyWebhookDeliveryRepository.add new) world := by
  have executed := @add_performs world run .webhook_deliveries (WebhookDeliveryModel.to_model new) storable unlisted
  have known := World.exec_executed executed
  exact led_perform executed rfl
    ⟨lone.working.added_delivery known, lone.keyed.executed known, lone.accepting, lone.unacked⟩

/-- The statement meets one row, which nobody else holds. -/
theorem single_performs {name : TableName} {statement : Update name} {id : UUID} {old : Row name}
    (keyed : World.Keyed world) (accepting : world.refusing run = false)
    (named : forall row, statement.condition row = true -> Row.id row = id)
    (seen : (world.cell name id).visible run = some old) (free : (world.cell name id).heldByOther run = false)
    (storable : Row.storable (statement.values 0 old) = true) : Exists fun after => Exists fun rows =>
      World.exec run (.update name statement) (.calm 0 0) world = some (after, .ok rows) := by
  have here : forall found row, (world.cell name found).visible run = some row -> statement.condition row = true ->
      found = id := by
    intro found row seen selected
    exact (keyed name found row (Cell.carries_of_visible seen)).symm.trans (named row selected)
  refine update_performs accepting (fun found row seen' selected => ?_) (fun found row seen' selected => ?_)
  · cases here found row seen' selected
    exact free
  · cases here found row seen' selected
    cases seen.symm.trans seen'
    exact storable

theorem heldByOther_of_held {name : TableName} (held : (world.cell name key).HeldBy run) :
    (world.cell name key).heldByOther run = false :=
  Cell.heldByOther_eq_false_iff.mpr (.inr held)

theorem Lone.finish (lone : Lone run key row (Properties.working row) attempt delivery message world)
    (storable : row.storable = true) (target : PaymentStatus) (time : Datetime) :
    Led deployment run (fun claimed after => claimed = true ∧
        Lone run key row (finished row target time) attempt delivery message after)
      (do
        let rows : List PaymentModel ←
          await (.update .payments (.payment_transition key 1 .PROCESSING target (some time)))
        return rows.length == 1) world := by
  have stored : Row.storable ((Update.payment_transition key 1 .PROCESSING target (some time)).values 0
      (Properties.working row)) = true := storable
  rcases single_performs lone.keyed lone.accepting transition_named lone.working.payments.visible
    (heldByOther_of_held lone.working.payments.held) stored with ⟨after, rows, executed⟩
  have known := World.exec_executed executed
  rcases lone.working.finished lone.keyed known with ⟨single, working⟩
  have updated : Led deployment run (fun (rows : List PaymentModel) after => (rows.length == 1) = true ∧
      Lone run key row (finished row target time) attempt delivery message after)
      (await (.update .payments (.payment_transition key 1 .PROCESSING target (some time)))) world :=
    led_perform executed rfl ⟨single, working, lone.keyed.executed known, (accepting_updated known).2,
      (known.broker rfl).symm ▸ lone.unacked⟩
  exact Machine.Alone.bind updated (fun _ _ known => Machine.Alone.ret known)

theorem Lone.progress {old : PaymentAttemptModel} {saved : PaymentAttempt}
    (lone : Lone run key row draft (some old) none message world) (same : old.id = saved.id)
    (storable : (progressed old saved).storable = true) :
    Led deployment run (fun _ => Lone run key row draft (some (progressed old saved)) none message)
      (SqlAlchemyAttemptRepository.update saved) world := by
  have held : Holds .payment_attempts run old.id old world := by
    rcases lone.working.attempts with refusing | ⟨holds, _⟩
    · cases lone.accepting.symm.trans refusing
    · exact holds
  have named : forall row : PaymentAttemptModel, (Update.attempt_progress saved).condition row = true ->
      @Row.id .payment_attempts row = old.id := fun row selected => (of_decide_eq_true selected).trans same.symm
  rcases single_performs lone.keyed lone.accepting named held.visible (heldByOther_of_held held.held) storable with
    ⟨after, rows, executed⟩
  have known := World.exec_executed executed
  rcases lone.working.progressed lone.keyed same known with ⟨working, accepting⟩
  have updated : Led deployment run (fun _ => Lone run key row draft (some (progressed old saved)) none message)
      (await (.update .payment_attempts (.attempt_progress saved))) world :=
    led_perform executed rfl ⟨working, lone.keyed.executed known, accepting, (known.broker rfl).symm ▸ lone.unacked⟩
  exact Machine.Alone.bind updated (fun _ _ known => Machine.Alone.ret known)

/-- The transaction is committed, and the payment has ended. -/
theorem Lone.commit {target : PaymentStatus} {time : Datetime}
    (lone : Lone run key row (finished row target time) attempt delivery message world) :
    Led deployment run (fun _ after => (after.cell .payments key).committed = some (finished row target time) ∧
      after.broker.unacked run = some message) (await .commit) world := by
  have executed : World.exec run .commit (.calm 0 0) world = some (world.commit run, .ok ()) := by
    simp only [World.exec, World.exec_commit, lone.accepting, Bool.false_eq_true, if_false]
    rfl
  refine led_perform executed rfl ⟨?_, lone.unacked⟩
  rw [World.cell_commit, Cell.commit_of_lock ((lone.working.payments key _).mpr ⟨rfl, rfl⟩)]

/-! ## From the claim to the end -/

/-- The values of the answer fit the columns of the attempt. -/
def answer_storable (result : GatewayResult) : Bool :=
  optional_text_storable result.error && result.raw.all json_storable

/-- The attempt as it begins. -/
def commenced (payment : Payment) (attempt_id : UUID) (correlation_id : Option String) (now : Datetime) :
    PaymentAttempt :=
  { PaymentAttempt.create attempt_id payment.id payment.next_attempt_number correlation_id now with
    status := .PROCESSING
    updated_at := now }

theorem begin_attempt_ok {payment : Payment} (processing : payment.status = .PROCESSING) (attempt_id : UUID)
    (correlation_id : Option String) (now : Datetime) : payment.begin_attempt attempt_id correlation_id now =
      .ok ({ payment with attempts := payment.attempts ++ [commenced payment attempt_id correlation_id now] },
        commenced payment attempt_id correlation_id now) := by
  simp only [Payment.begin_attempt, Payment.require_processing, processing, if_true, PaymentAttempt.create,
    PaymentAttempt.start, PaymentAttempt.transition, PaymentAttempt.VALID_TRANSITIONS, List.mem_singleton, ok_bind]
  rfl

theorem started_storable {payment : Payment} {correlation_id : Option String}
    (storable : optional_varchar_storable 64 correlation_id = true) (attempt_id : UUID) (now : Datetime) :
    (PaymentAttemptModel.of_attempt (commenced payment attempt_id correlation_id now)).storable = true := by
  have positive : 0 < payment.next_attempt_number := Nat.succ_pos _
  change (decide (0 < payment.next_attempt_number) && true && true && optional_varchar_storable 64 correlation_id) = true
  rw [decide_eq_true positive, storable]
  rfl

/-- The attempt with the answer of the gateway. -/
def settled_attempt (attempt : PaymentAttempt) (result : GatewayResult) (now : Datetime) : PaymentAttempt :=
  if result.success then
    { attempt with status := .SUCCEEDED, gateway_response := result.raw, error := none, updated_at := now }
  else { attempt with status := .FAILED, error := result.error, updated_at := now }

section

variable {payment : Payment} {begun : PaymentAttempt} {result : GatewayResult} {now : Datetime}

theorem current_attempt_ok (last : payment.attempts.getLast? = some begun) : payment.current_attempt = .ok begun := by
  unfold Payment.current_attempt
  rw [last]

theorem succeed_attempt_ok (status : payment.status = .PROCESSING) (last : payment.attempts.getLast? = some begun)
    (processing : begun.status = .PROCESSING) (success : result.success = true) :
    payment.succeed_attempt now result = .ok (payment.replace_current (settled_attempt begun result now),
      settled_attempt begun result now) := by
  simp only [Payment.succeed_attempt, Payment.require_processing, status, if_true, current_attempt_ok last,
    PaymentAttempt.succeed, PaymentAttempt.transition, processing, PaymentAttempt.VALID_TRANSITIONS, List.mem_cons,
    true_or, ok_bind, settled_attempt, success]
  rfl

theorem fail_attempt_ok (status : payment.status = .PROCESSING) (last : payment.attempts.getLast? = some begun)
    (processing : begun.status = .PROCESSING) (declined : result.success = false) :
    payment.fail_attempt now result.error = .ok (payment.replace_current (settled_attempt begun result now),
      settled_attempt begun result now) := by
  simp only [Payment.fail_attempt, Payment.require_processing, status, if_true, current_attempt_ok last,
    PaymentAttempt.fail, PaymentAttempt.transition, processing, PaymentAttempt.VALID_TRANSITIONS, List.mem_cons,
    ok_bind, settled_attempt, declined, Bool.false_eq_true, if_false]
  rfl

theorem mark_processing_ok (status : payment.status = .PENDING) :
    payment.mark_processing now = .ok (Payment.add_event
      { payment with status := .PROCESSING, version := payment.version + 1 }
      (.PaymentProcessingStarted payment.id now payment.correlation_id)) := by
  simp only [Payment.mark_processing, Payment.transition, Payment.VALID_TRANSITIONS, status, List.mem_singleton,
    if_true, ok_bind]
  rfl

theorem mark_succeeded_ok (status : payment.status = .PROCESSING) :
    payment.mark_succeeded now = .ok (Payment.add_event
      { payment with status := .SUCCEEDED, processed_at := some now, version := payment.version + 1 }
      (.PaymentSucceeded payment.id now payment.correlation_id now)) := by
  simp only [Payment.mark_succeeded, Payment.transition, Payment.VALID_TRANSITIONS, status, List.mem_cons, true_or,
    if_true, ok_bind]
  rfl

theorem mark_failed_ok {reason : Option String} (status : payment.status = .PROCESSING) :
    payment.mark_failed now reason = .ok (Payment.add_event
      { payment with status := .FAILED, processed_at := some now, version := payment.version + 1 }
      (.PaymentFailed payment.id now payment.correlation_id reason now)) := by
  simp only [Payment.mark_failed, Payment.transition, Payment.VALID_TRANSITIONS, status, List.mem_cons]
  rfl

end

/-! ## Settling the charge -/

section

variable {payment : Payment} {begun : PaymentAttempt} {result : GatewayResult} {finished_at : Datetime}

/-- The settled attempt fits its columns. -/
theorem settled_storable (answerable : answer_storable result = true)
    (storable : (PaymentAttemptModel.of_attempt begun).storable = true) :
    (progressed (PaymentAttemptModel.of_attempt begun) (settled_attempt begun result finished_at)).storable = true := by
  have answerable : (optional_text_storable result.error && result.raw.all json_storable) = true := answerable
  have stored : (decide (0 < begun.attempt_number) && optional_text_storable begun.error &&
      begun.gateway_response.all json_storable && optional_varchar_storable 64 begun.correlation_id) = true := storable
  simp only [Bool.and_eq_true] at answerable stored
  change (decide (0 < begun.attempt_number) &&
    optional_text_storable (settled_attempt begun result finished_at).error &&
    (settled_attempt begun result finished_at).gateway_response.all json_storable &&
    optional_varchar_storable 64 begun.correlation_id) = true
  cases success : result.success with
  | true =>
      simp only [settled_attempt, success, if_true, stored, answerable, Bool.and_true]
      rfl
  | false =>
      simp only [settled_attempt, success, Bool.false_eq_true, if_false, stored, answerable, Bool.and_true]

theorem settled_id : (settled_attempt begun result finished_at).id = begun.id := by
  unfold settled_attempt
  split <;> rfl

/-- Either branch of `settle` finds the payment as this run has left it. -/
theorem Lone.settle (lone : Lone run key row (Properties.working row) attempt delivery message world)
    (charged : Charged row payment begun) (named : row.id = key) (storable : row.storable = true)
    (processing : begun.status = .PROCESSING) :
    Led deployment run (fun outcome after => outcome = (settled_attempt begun result finished_at, true) ∧
        Lone run key row (finished row (verdict result) finished_at) attempt delivery message after)
      (ProcessPaymentHandler.settle payment result finished_at) world := by
  have named : payment.id = key := charged.id.trans named
  unfold ProcessPaymentHandler.settle
  dsimp only
  rw [charged.version, charged.status]
  cases success : result.success with
  | true =>
      have target : verdict result = .SUCCEEDED := by simp only [verdict, success, if_true]
      refine Machine.Alone.ofExcept (succeed_attempt_ok charged.status charged.last processing success) ?_
      refine Machine.Alone.ofExcept (mark_succeeded_ok charged.status) ?_
      change Led deployment run _ (do
        let claimed ← SqlAlchemyPaymentRepository.mark_succeeded payment.id 1 .PROCESSING finished_at
        return (settled_attempt begun result finished_at, claimed)) world
      rw [named, target]
      refine Machine.Alone.bind (lone.finish storable .SUCCEEDED finished_at) (fun claimed after known => ?_)
      exact Machine.Alone.ret ⟨congrArg _ known.1, known.2⟩
  | false =>
      have target : verdict result = .FAILED := by simp only [verdict, success, Bool.false_eq_true, if_false]
      refine Machine.Alone.ofExcept (fail_attempt_ok charged.status charged.last processing success) ?_
      refine Machine.Alone.ofExcept (mark_failed_ok charged.status) ?_
      change Led deployment run _ (do
        let claimed ← SqlAlchemyPaymentRepository.mark_failed payment.id 1 .PROCESSING finished_at
        return (settled_attempt begun result finished_at, claimed)) world
      rw [named, target]
      refine Machine.Alone.bind (lone.finish storable .FAILED finished_at) (fun claimed after known => ?_)
      exact Machine.Alone.ret ⟨congrArg _ known.1, known.2⟩

theorem delivery_storable {event_type : String}
    (fits : (decide (event_type.length ≤ 64) && text_storable event_type) = true) {correlation_id : Option String}
    (correlated : optional_varchar_storable 64 correlation_id = true) (delivery_id payment_id : UUID)
    (now : Datetime) : (WebhookDeliveryModel.to_model
      (WebhookDelivery.create delivery_id payment_id event_type correlation_id now)).storable = true := by
  change (decide (event_type.length ≤ 64) && text_storable event_type && true &&
    optional_varchar_storable 64 correlation_id) = true
  rw [fits, correlated]
  rfl

/-- The run that has charged the payment ends it, whatever the gateway has answered. -/
theorem Lone.finalize (lone : Lone run key row (Properties.working row) (some (PaymentAttemptModel.of_attempt begun)) none
      message world)
    (charged : Charged row payment begun) (named : row.id = key) (storable : row.storable = true)
    (processing : begun.status = .PROCESSING) (answerable : answer_storable result = true)
    (attempt_storable : (PaymentAttemptModel.of_attempt begun).storable = true) {command : ProcessPaymentCommand}
    (correlated : optional_varchar_storable 64 command.correlation_id = true) :
    Led deployment run (fun _ after => Exists fun time => Exists fun attempt => Exists fun delivery =>
        Lone run key row (finished row (verdict result) time) attempt delivery message after)
      (ProcessPaymentHandler.finalize command payment result) world := by
  refine Machine.Alone.bind lone.now (fun finished_at middle known => ?_)
  have settles : Led deployment run (fun outcome after => outcome = (settled_attempt begun result finished_at, true) ∧
      Lone run key row (finished row (verdict result) finished_at) (some (PaymentAttemptModel.of_attempt begun)) none
        message after) (ProcessPaymentHandler.settle payment result finished_at) middle :=
    known.settle charged named storable processing
  refine Machine.Alone.bind settles ?_
  rintro outcome settled ⟨rfl, ending⟩
  dsimp only
  rw [if_neg (by decide)]
  refine Machine.Alone.bind (ending.progress settled_id.symm (settled_storable answerable attempt_storable))
    (fun _ saved ending => ?_)
  refine Machine.Alone.bind ending.uuid7 ?_
  rintro delivery_id fresh ⟨ending, unlisted⟩
  refine Machine.Alone.bind (ending.add_delivery _ ?_ (unlisted .webhook_deliveries)) (fun _ last ending => ?_)
  · refine delivery_storable ?_ correlated delivery_id payment.id finished_at
    cases result.success <;> decide
  · exact Machine.Alone.ret ⟨_, _, _, ending⟩

/-- The run that has claimed the payment charges it and ends it. -/
theorem Lone.charges (lone : Lone run key row (Properties.working row) none none message world)
    (untried : Untried key world) (named : row.id = key) (storable : row.storable = true) {loaded processing : Payment}
    {started_at : Datetime} (load : row.to_domain = .ok loaded)
    (mark : loaded.mark_processing started_at = .ok processing) (answerable : answer_storable result = true)
    {command : ProcessPaymentCommand} (correlated : optional_varchar_storable 64 command.correlation_id = true) :
    Led deployment run (fun _ after => Exists fun time => Exists fun attempt => Exists fun delivery =>
        Lone run key row (finished row (verdict result) time) attempt delivery message after)
      (ProcessPaymentHandler.charge command processing started_at) world := by
  have marked := marked_processing mark
  have same : processing.id = key := (marked.id.trans (loaded_from load).id).trans named
  unfold ProcessPaymentHandler.charge
  rw [same]
  refine Machine.Alone.bind (lone.attempts untried) ?_
  rintro existing middle ⟨rfl, lone⟩
  refine Machine.Alone.bind lone.uuid7 ?_
  rintro attempt_id fresh ⟨lone, unlisted⟩
  have begins := @begin_attempt_ok (processing.hydrate_attempts []) marked.status attempt_id command.correlation_id
    started_at
  have fits := @started_storable (processing.hydrate_attempts []) command.correlation_id correlated attempt_id started_at
  have charged := Charging.charged ⟨lone.working.fresh, loaded, processing, attempt_id, command.correlation_id,
    started_at, load, mark, begins⟩
  refine Machine.Alone.ofExcept begins ?_
  refine Machine.Alone.bind (lone.add_attempt _ fits (unlisted .payment_attempts)) (fun _ added lone => ?_)
  refine lone.charge _ _ _ result (fun answered lone => ?_)
  exact lone.finalize charged named storable rfl answerable fits correlated

end

end Properties
end Payments
