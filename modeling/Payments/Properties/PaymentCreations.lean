import Payments.Properties.CreationDiscipline
import Payments.Properties.PaymentFinality
import Payments.Properties.Persistence

namespace Payments
namespace Properties

open Concurrency Domain Infrastructure Application Prog UnitOfWork Payments.System

/-!
# Creating a payment once

Any number of calls may carry the same idempotency key.  The one whose insert
wins commits the payment with its message.  Every other one waits for the
winner, finds that the key is taken, and answers from the row it then loads.
-/

variable {deployment : Deployment} {world after : World} {run : RunId} {op : Op} {payment : Payment}
  {row later : PaymentModel} {dto : PaymentDTO} {text : String}

/-! ## What a client is told -/

/-- The answer of a call fits the row. -/
structure Tells (dto : PaymentDTO) (row : PaymentModel) : Prop where
  payment_id : dto.payment_id = row.id
  created_at : dto.created_at = row.created_at
  currency : dto.currency = row.currency
  webhook_url : dto.webhook_url = row.webhook_url
  amount : dto.amount.value = row.amount.value

theorem Tells.of_origin (tells : Tells dto row) (same : origin later = origin row) : Tells dto later := by
  rcases later with ⟨_, _, _, _, _, _, _, _, _, _, _, _⟩
  rcases row with ⟨_, _, _, _, _, _, _, _, _, _, _, _⟩
  cases same
  exact ⟨tells.payment_id, tells.created_at, tells.currency, tells.webhook_url, tells.amount⟩

/-- Two answers from one row agree. -/
theorem Tells.agree {other : PaymentDTO} (tells : Tells dto row) (tells' : Tells other row) :
    dto.payment_id = other.payment_id ∧ dto.created_at = other.created_at ∧ dto.currency = other.currency ∧
      dto.webhook_url = other.webhook_url ∧ dto.amount.value = other.amount.value :=
  ⟨tells.payment_id.trans tells'.payment_id.symm, tells.created_at.trans tells'.created_at.symm,
    tells.currency.trans tells'.currency.symm, tells.webhook_url.trans tells'.webhook_url.symm,
    tells.amount.trans tells'.amount.symm⟩

/-- A loaded payment is reported as its row has it. -/
theorem tells_loaded (load : row.to_domain = .ok payment) (attempts : Option (List PaymentAttempt)) :
    Tells (PaymentDTO.from_payment payment attempts) row := by
  unfold PaymentModel.to_domain at load
  cases keyed : IdempotencyKey.new row.idempotency_key with
  | error error =>
      rw [keyed] at load
      cases load
  | ok key =>
      cases priced : Money.new row.amount row.currency with
      | error error =>
          rw [keyed, priced] at load
          cases load
      | ok money =>
          rw [keyed, priced] at load
          cases load
          rcases fields_of_money priced with ⟨amount, currency⟩
          exact ⟨rfl, rfl, currency, rfl, congrArg Decimal.value amount⟩

/-- A stored payment is reported as its row has it; the column may write the amount in another way. -/
theorem tells_stored (stored : PaymentModel.of_payment payment = some row) (storable : row.storable = true)
    (attempts : Option (List PaymentAttempt)) : Tells (PaymentDTO.from_payment payment attempts) row := by
  rcases reconstructed stored storable with ⟨loaded, load, same⟩
  have tells := tells_loaded load attempts
  refine ⟨same.id.symm.trans tells.payment_id, same.created_at.symm.trans tells.created_at, ?_,
    same.webhook_url.symm.trans tells.webhook_url, same.amount.symm.trans tells.amount⟩
  exact (congrArg Currency.value same.currency).symm.trans tells.currency

/-- The answer fits the committed payment with this idempotency key. -/
def Told (text : String) (dto : PaymentDTO) (world : World) : Prop :=
  Exists fun key => Exists fun row : PaymentModel => (world.cell .payments key).committed = some row ∧
    row.idempotency_key = text ∧ Tells dto row

theorem Told.evolves (told : Told text dto world) (evolves : PaymentsEvolve world after) : Told text dto after := by
  rcases told with ⟨key, row, found, named, tells⟩
  rcases evolves.grows key row found with ⟨later, found', grows⟩
  exact ⟨key, later, found', (idempotency_key_of_origin grows.origin).trans named, tells.of_origin grows.origin⟩

/-- A committed payment has this idempotency key. -/
def Existing (text : String) (world : World) : Prop :=
  Exists fun key => Exists fun row : PaymentModel => (world.cell .payments key).committed = some row ∧
    row.idempotency_key = text

theorem Existing.evolves (existing : Existing text world) (evolves : PaymentsEvolve world after) :
    Existing text after := by
  rcases existing with ⟨key, row, found, named⟩
  rcases evolves.grows key row found with ⟨later, found', grows⟩
  exact ⟨key, later, found', (idempotency_key_of_origin grows.origin).trans named⟩

/-! ## What a creating run holds -/

/-- The run holds no payment and no outbox row. -/
structure Untaken (run : RunId) (world : World) : Prop where
  payments : Away .payments run world
  messages : Away .outbox_messages run world

theorem Untaken.stable (untaken : Untaken run world) (untouched : World.Untouched run world after) :
    Untaken run after :=
  ⟨untaken.payments.stable untouched, untaken.messages.stable untouched⟩

theorem Untaken.of_tables (untaken : Untaken run world) (tables : after.tables = world.tables) : Untaken run after := by
  have cells : forall name key, after.cell name key = world.cell name key := by
    intro name key
    rw [World.cell, World.cell, tables]
  exact ⟨fun key held => untaken.payments key (cells .payments key ▸ held),
    fun key held => untaken.messages key (cells .outbox_messages key ▸ held)⟩

theorem Untaken.continuing (untaken : Untaken run world) : Continuing run world :=
  ⟨untaken.payments.replacing, untaken.messages.replacing⟩

/-- The run has written a new payment, and this is its only one. -/
structure Written (run : RunId) (payment : Payment) (row : PaymentModel) (world : World) : Prop where
  stored : PaymentModel.of_payment payment = some row
  storable : row.storable = true
  payments : Holds .payments run row.id row world
  vacant : (world.cell .payments row.id).committed = none

theorem Written.stable (written : Written run payment row world) (untouched : World.Untouched run world after) :
    Written run payment row after :=
  { written with
    payments := written.payments.stable untouched
    vacant := (written.payments.committed_same untouched).trans written.vacant }

theorem Written.of_cells (written : Written run payment row world)
    (cells : forall key, after.cell .payments key = world.cell .payments key) : Written run payment row after :=
  { written with
    payments := written.payments.of_cells cells
    vacant := (congrArg Cell.committed (cells row.id)).trans written.vacant }

/-- What `try_insert` comes to. -/
inductive Inserting (run : RunId) (payment : Payment) (world : World) : Option Payment -> Prop where
  | inserted (row : PaymentModel) (written : Written run payment row world)
      (messages : Away .outbox_messages run world) : Inserting run payment world (some payment)
  | taken (untaken : Untaken run world) (existing : Existing payment.idempotency_key.value world) :
      Inserting run payment world none

theorem Inserting.stable {result : Option Payment} (inserting : Inserting run payment world result)
    (untouched : World.Untouched run world after) (evolves : PaymentsEvolve world after) :
    Inserting run payment after result := by
  cases inserting with
  | inserted row written messages => exact .inserted row (written.stable untouched) (messages.stable untouched)
  | taken untaken existing => exact .taken (untaken.stable untouched) (existing.evolves evolves)

/-- A run that is about to commit and to answer. -/
inductive Answering (run : RunId) (text : String) (dto : PaymentDTO) (world : World) : Prop where
  | created (payment : Payment) (row : PaymentModel) (message : OutboxMessageModel)
      (written : Written run payment row world) (named : row.idempotency_key = text) (tells : Tells dto row)
      (adding : Adding .outbox_messages run (some message) world) (announces : Announces row message)
  | existing (untaken : Untaken run world) (told : Told text dto world)

theorem Answering.stable (answering : Answering run text dto world) (untouched : World.Untouched run world after)
    (evolves : PaymentsEvolve world after) : Answering run text dto after := by
  cases answering with
  | created payment row message written named tells adding announces =>
      exact .created payment row message (written.stable untouched) named tells (adding.stable untouched) announces
  | existing untaken told => exact .existing (untaken.stable untouched) (told.evolves evolves)

/-- What the commit may install. -/
theorem Answering.creates (answering : Answering run text dto world) :
    world.refusing run = true ∨ Creates run world := by
  cases answering with
  | created payment row message written named tells adding announces =>
      rcases adding with refusing | ⟨messages, _⟩
      · exact .inl refusing
      · exact .inr (.created _ _ row message written.payments written.vacant messages announces)
  | existing untaken told => exact .inr (.continuing untaken.continuing)

theorem Answering.committed (answering : Answering run text dto world)
    (evolves : PaymentsEvolve world (world.commit run)) : Told text dto (world.commit run) := by
  cases answering with
  | created payment row message written named tells adding announces =>
      have locked := (written.payments row.id (some row)).mpr ⟨rfl, rfl⟩
      refine ⟨row.id, row, ?_, named, tells⟩
      rw [World.cell_commit, Cell.commit_of_lock locked]
  | existing untaken told => exact told.evolves evolves

/-! ## The program of a creation -/

def untaken (run : RunId) : (creation_discipline deployment).Assertion run where
  holds := Untaken run
  stable := fun known rely _ => known.stable rely.1

def inserting (run : RunId) (payment : Payment) (result : Option Payment) :
    (creation_discipline deployment).Assertion run where
  holds := fun world => Inserting run payment world result
  stable := fun known rely _ => known.stable rely.1 rely.2

def answering (run : RunId) (text : String) (dto : PaymentDTO) : (creation_discipline deployment).Assertion run where
  holds := Answering run text dto
  stable := fun known rely _ => known.stable rely.1 rely.2

def told (run : RunId) (text : String) (dto : PaymentDTO) : (creation_discipline deployment).Assertion run where
  holds := Told text dto
  stable := fun known rely _ => known.evolves rely.2

/-- The exceptions that do not report a conflict of idempotency keys. -/
def unconflicting (run : RunId) (raised : Error) : (creation_discipline deployment).Assertion run :=
  .fact (forall text, raised ≠ .idempotencyConflict text)

theorem unconflicting_external {raised : Error} (known : external raised = true) (text : String) :
    raised ≠ .idempotencyConflict text := by
  rintro rfl
  cases known

theorem unconflicting_values {raised : Error} (known : of_values raised = true) (text : String) :
    raised ≠ .idempotencyConflict text := by
  rintro rfl
  cases known

/-- The rule for an operation of a creating run. -/
theorem creation_triple {pre : (creation_discipline deployment).Assertion run}
    {post : op.Answer -> (creation_discipline deployment).Assertion run}
    (permitted : forall world, CreationsKept world -> pre world -> CreationPermits run op world)
    (returns : forall world after value, CreationsKept world -> pre world ->
      World.Executed run world op after (.ok value) -> PaymentsEvolve world after -> post value after) :
    (creation_discipline deployment).Triple pre (await op) post (unconflicting run) :=
  Discipline.Triple.perform permitted
    (fun state _ after value kept known ran _ evolves => returns state after value kept known (service_executed ran) evolves)
    (fun _ _ _ _ _ _ ran _ _ => unconflicting_external (service_executed ran).external)

theorem unconcerned_permits (not_commit : op ≠ .commit)
    (unasked : forall text, op ≠ .select .payments (.payment_by_idempotency_key text)) :
    CreationPermits run op world :=
  ⟨fun same => absurd same not_commit, fun text same => absurd same (unasked text)⟩

theorem creation_now_triple : (creation_discipline deployment).Triple (untaken run) (await .now)
    (fun _ => untaken run) (unconflicting run) := by
  refine creation_triple (fun world _ _ => unconcerned_permits (by simp) (by simp))
    (fun world after value _ known executed _ => ?_)
  cases executed with
  | now reading => exact Untaken.of_tables known rfl

theorem creation_uuid7_triple : (creation_discipline deployment).Triple (untaken run) (await .uuid7)
    (fun _ => untaken run) (unconflicting run) := by
  refine creation_triple (fun world _ _ => unconcerned_permits (by simp) (by simp))
    (fun world after value _ known executed _ => ?_)
  cases executed with
  | uuid7 id fresh => exact Untaken.of_tables known rfl

/-- A row that conflicts is committed, for the run has none of its own. -/
theorem existing_of_conflicts (untaken : Untaken run world) (found : world.conflicts run text = true) :
    Existing text world := by
  unfold World.conflicts at found
  cases matching : (world.tables .payments).matching run
      (fun row => decide (PaymentModel.idempotency_key row = text)) with
  | nil =>
      rw [matching] at found
      cases found
  | cons key rest =>
      have member : key ∈ (world.tables .payments).matching run
          (fun row => decide (PaymentModel.idempotency_key row = text)) := matching ▸ List.mem_cons_self
      rcases Table.mem_matching.mp member with ⟨row, seen, matched⟩
      have committed := (Cell.visible_of_not_heldBy (untaken.payments key)).symm.trans seen
      exact ⟨key, row, committed, of_decide_eq_true matched⟩

theorem try_insert_triple (payment : Payment) :
    (creation_discipline deployment).Triple (untaken run) (SqlAlchemyPaymentRepository.try_insert payment)
      (inserting run payment) (unconflicting run) := by
  have insert : (creation_discipline deployment).Triple (untaken run)
      (await (.insert_on_conflict_do_nothing (PaymentModel.of_payment payment)))
      (fun (rowcount : Nat) => inserting run payment (if rowcount = 1 then some payment else none))
      (unconflicting run) := by
    refine creation_triple (fun world _ _ => unconcerned_permits (by simp) (by simp)) ?_
    intro world after value kept known executed _
    cases stored : PaymentModel.of_payment payment with
    | none =>
        rw [stored] at executed
        cases executed
    | some row =>
        rw [stored] at executed
        rcases of_payment_fields stored with ⟨_, key⟩
        cases executed with
        | conflicting row found => exact .taken known (key ▸ existing_of_conflicts known found)
        | inserted row storable unseen uncontended unlisted =>
            refine .inserted row ⟨stored, storable, holds_written (fun id _ => known.payments id) ?_ (fun id different => ?_),
              ?_⟩ ?_
            · rw [World.cell_set_table_self]
              exact Table.put_cell_self row
            · rw [World.cell_set_table_self]
              exact Table.put_cell_of_ne row different
            · have vacant := World.cell_of_unlisted unlisted
              rw [World.cell_set_table_self]
              refine (congrArg Cell.committed (Table.put_cell_self row)).trans ?_
              exact congrArg Cell.committed vacant
            · intro id held
              rw [World.cell_set_table_of_ne _ (by simp)] at held
              exact known.messages id held
  exact Discipline.Triple.bind insert (fun _ => Discipline.Triple.ret (fun _ _ known => known))

/-- The key is taken by one payment, and the run sees its row. -/
theorem selected_existing (kept : PaymentsKept world) (untaken : Untaken run world) (existing : Existing text world) :
    Exists fun row : PaymentModel => row.idempotency_key = text ∧
      (Exists fun key => (world.cell .payments key).committed = some row) ∧
      (world.tables .payments).select run (Query.payment_by_idempotency_key text).condition = [row] := by
  rcases existing with ⟨key, row, found, named⟩
  have seen : ((world.tables .payments).cell key).visible run = some row :=
    (Cell.visible_of_not_heldBy (untaken.payments key)).trans found
  refine ⟨row, named, ⟨key, found⟩, ?_⟩
  have only : forall other found', ((world.tables .payments).cell other).visible run = some found' ->
      (Query.payment_by_idempotency_key text).condition found' = true -> other = key := by
    intro other found' seen' matched
    have same : PaymentModel.idempotency_key found' = text := of_decide_eq_true matched
    exact kept.unique other key found' row (Cell.carries_of_visible seen') (.committed found) (same.trans named.symm)
  rw [Table.select_at only, seen]
  simp [Query.condition, named]

/-- The rows of the reload are the one row that has the key. -/
def Reloaded (run : RunId) (text : String) (rows : List PaymentModel) (world : World) : Prop :=
  Untaken run world ∧ Exists fun row : PaymentModel => rows = [row] ∧ row.idempotency_key = text ∧
    Exists fun key => Exists fun later => (world.cell .payments key).committed = some later ∧ origin later = origin row

def reloaded (run : RunId) (text : String) (rows : List PaymentModel) :
    (creation_discipline deployment).Assertion run where
  holds := Reloaded run text rows
  stable := by
    rintro before after ⟨untaken, row, single, named, key, later, found, same⟩ rely _
    rcases rely.2.grows key later found with ⟨last, found', grows⟩
    exact ⟨untaken.stable rely.1, row, single, named, key, last, found', grows.origin.trans same⟩

/-- There is a payment, and it is the answer. -/
def existing (run : RunId) (text : String) : Option Payment -> (creation_discipline deployment).Assertion run
  | none => .fact False
  | some payment => answering run text (PaymentDTO.from_payment payment none)

/-- A taken key is answered from the row that has it. -/
theorem reload_triple (payment : Payment) :
    (creation_discipline deployment).Triple (inserting run payment none)
      (SqlAlchemyPaymentRepository.get_by_idempotency_key payment.idempotency_key.value)
      (existing run payment.idempotency_key.value) (unconflicting run) := by
  have selected : (creation_discipline deployment).Triple (inserting run payment none)
      (await (.select .payments (.payment_by_idempotency_key payment.idempotency_key.value)))
      (reloaded run payment.idempotency_key.value) (unconflicting run) := by
    refine creation_triple (fun world _ known => ?_) (fun world after rows kept known executed _ => ?_)
    · cases known with
      | taken untaken existing =>
          refine ⟨by simp, fun text same => ?_⟩
          cases same
          exact existing
    · cases known with
      | taken untaken existing =>
          cases executed with
          | selected _ _ accepting =>
              rcases selected_existing kept.payments untaken existing with ⟨row, named, ⟨key, found⟩, single⟩
              refine ⟨untaken, row, ?_, named, key, row, found, rfl⟩
              rw [single]
              rfl
  refine Discipline.Triple.bind selected (fun rows world _ known => ?_)
  rcases known with ⟨untaken, row, rfl, named, key, later, found, same⟩
  cases load : row.to_domain with
  | error raised =>
      simp only [load]
      exact unconflicting_values (values_load load)
  | ok loaded =>
      simp only [load]
      refine .existing untaken ⟨key, later, found, (idempotency_key_of_origin same).trans named, ?_⟩
      exact (tells_loaded load none).of_origin same

/-- The message of a new payment is added in its transaction. -/
theorem announce_triple {event : DomainEvent} (events : payment.pull_events.1 = [event]) (dto : PaymentDTO)
    (tells : forall row, PaymentModel.of_payment payment = some row -> row.storable = true -> Tells dto row)
    (announces : forall row id, PaymentModel.of_payment payment = some row ->
      Announces row (OutboxMessageModel.of_event id event)) :
    (creation_discipline deployment).Triple (inserting run payment (some payment))
      (collect_events payment.pull_events.1)
      (fun _ => answering run payment.idempotency_key.value dto) (unconflicting run) := by
  rw [events]
  have identify : (creation_discipline deployment).Triple (inserting run payment (some payment)) (await .uuid7)
      (fun _ => inserting run payment (some payment)) (unconflicting run) := by
    refine creation_triple (fun world _ _ => unconcerned_permits (by simp) (by simp))
      (fun world after value _ known executed _ => ?_)
    cases executed with
    | uuid7 id fresh =>
        cases known with
        | inserted row written messages => exact .inserted row (written.of_cells (fun _ => rfl)) messages
  have add : forall id, (creation_discipline deployment).Triple (inserting run payment (some payment))
      (await (.add .outbox_messages (OutboxMessageModel.of_event id event)))
      (fun _ => answering run payment.idempotency_key.value dto) (unconflicting run) := by
    intro id
    refine creation_triple (fun world _ _ => unconcerned_permits (by simp) (by simp))
      (fun world after value _ known executed _ => ?_)
    cases known with
    | inserted row written messages =>
        rcases added_row messages executed with ⟨adding, others, _⟩
        exact .created payment row _ (written.of_cells (others .payments (by simp))) (of_payment_fields written.stored).2
          (tells row written.stored written.storable) adding (announces row id written.stored)
  exact Discipline.Triple.bind (Discipline.Triple.bind identify add)
    (fun _ => Discipline.Triple.ret (fun _ _ known => known))

theorem announces_created {command : CreatePaymentCommand} {values : IdempotencyKey × Money} {id : UUID} {now : Datetime}
    (message_id : UUID)
    (stored : PaymentModel.of_payment (CreatePaymentHandler.new_payment command values id now) = some row) :
    Announces row (OutboxMessageModel.of_event message_id (.PaymentCreated id now command.correlation_id
      values.2.amount.str values.2.currency.value command.description command.metadata command.webhook_url
      values.1.value now)) := by
  rcases Option.map_eq_some_iff.mp stored with ⟨amount, _, rfl⟩
  exact ⟨rfl, rfl, now, values.2.amount.str, rfl⟩

theorem unconflicting_validated {command : CreatePaymentCommand} {raised : Error}
    (failed : CreatePaymentHandler.validated command = .error raised) (text : String) :
    raised ≠ .idempotencyConflict text := by
  rintro rfl
  unfold CreatePaymentHandler.validated at failed
  dsimp only at failed
  split at failed
  · cases failed
  · rcases bind_error failed with key | ⟨key, _, failed⟩
    · exact absurd rfl (unconflicting_values (values_key key) text)
    · rcases bind_error failed with money | ⟨money, _, failed⟩
      · exact absurd rfl (unconflicting_values (values_money money) text)
      · cases failed

theorem validated_key {command : CreatePaymentCommand} {values : IdempotencyKey × Money}
    (valid : CreatePaymentHandler.validated command = .ok values) : values.1.value = command.idempotency_key := by
  unfold CreatePaymentHandler.validated at valid
  dsimp only at valid
  split at valid
  · cases valid
  · rcases bind_ok valid with ⟨key, keyed, valid⟩
    rcases bind_ok valid with ⟨money, _, valid⟩
    cases valid
    exact IdempotencyKey.value_of_new keyed

theorem creation_body_triple (command : CreatePaymentCommand) :
    (creation_discipline deployment).Triple (untaken run) (CreatePaymentHandler.body command)
      (answering run command.idempotency_key) (unconflicting run) := by
  refine Discipline.Triple.bind creation_now_triple (fun now => ?_)
  refine Discipline.Triple.ofExcept_bind (fun raised _ failed _ _ => unconflicting_validated failed) (fun values valid => ?_)
  refine Discipline.Triple.bind creation_uuid7_triple (fun id => ?_)
  have keyed : values.1.value = command.idempotency_key := validated_key valid
  refine Discipline.Triple.bind (try_insert_triple (CreatePaymentHandler.new_payment command values id now))
    (fun inserted => ?_)
  cases inserted with
  | none =>
      have reload := @reload_triple deployment run (CreatePaymentHandler.new_payment command values id now)
      have same : (CreatePaymentHandler.new_payment command values id now).idempotency_key.value =
          command.idempotency_key := keyed
      rw [same] at reload
      refine Discipline.Triple.bind reload (fun existing => ?_)
      cases existing with
      | none => exact fun _ _ impossible => impossible.elim
      | some existing => exact Discipline.Triple.ret (fun _ _ known => known)
  | some payment =>
      intro world kept known
      cases known with
      | inserted row written messages =>
          have announce := @announce_triple deployment run (CreatePaymentHandler.new_payment command values id now) _ rfl
            (PaymentDTO.from_payment (CreatePaymentHandler.new_payment command values id now).pull_events.2 none)
            (fun row stored storable => tells_stored stored storable none)
            (fun row message_id stored => announces_created message_id stored)
          have same : (CreatePaymentHandler.new_payment command values id now).idempotency_key.value =
              command.idempotency_key := keyed
          rw [same] at announce
          exact Discipline.Triple.bind announce (fun _ => Discipline.Triple.ret (fun _ _ known => known)) world kept
            (.inserted row written messages)

theorem answering_commit_triple (text : String) (dto : PaymentDTO) :
    (creation_discipline deployment).Triple (answering run text dto) (await .commit) (fun _ => told run text dto)
      (unconflicting run) := by
  refine creation_triple (fun world _ known => ⟨fun _ => Answering.creates known, by simp⟩)
    (fun world after value _ known executed evolves => ?_)
  cases executed with
  | committed answer known' accepting => exact Answering.committed known evolves

theorem creation_handle_triple (command : CreatePaymentCommand) :
    (creation_discipline deployment).Triple (untaken run) (CreatePaymentHandler.handle command)
      (told run command.idempotency_key) (unconflicting run) := by
  have rollback : forall raised, (creation_discipline deployment).Triple (unconflicting run raised) (await .rollback)
      (fun _ => unconflicting run raised) (unconflicting run) := by
    intro raised
    exact creation_triple (fun _ _ _ => unconcerned_permits (by simp) (by simp)) (fun _ _ _ _ known _ _ => known)
  have failed : forall raised, (creation_discipline deployment).Triple (unconflicting run raised) (await .close)
      (fun _ => unconflicting run raised) (unconflicting run) := by
    intro raised
    exact creation_triple (fun _ _ _ => unconcerned_permits (by simp) (by simp)) (fun _ _ _ _ known _ _ => known)
  have answered : forall dto, (creation_discipline deployment).Triple (told run command.idempotency_key dto)
      (await .close) (fun _ => told run command.idempotency_key dto) (unconflicting run) := by
    intro dto
    exact creation_triple (fun _ _ _ => unconcerned_permits (by simp) (by simp))
      (fun _ _ _ _ known _ evolves => Told.evolves known evolves)
  exact transactional_triple (creation_body_triple command) (answering_commit_triple command.idempotency_key)
    rollback failed answered

/-! ## The whole service -/

def creation_post (run : RunId) : (job : Job) -> job.Result -> (creation_discipline deployment).Assertion run
  | .create command, dto => told run command.idempotency_key dto
  | _, _ => .fact True

def creation_error (run : RunId) (job : Job) (raised : Error) : (creation_discipline deployment).Assertion run :=
  match job with
  | .create _ => unconflicting run raised
  | _ => .fact True

def creation_verified (deployment : Deployment) : (creation_discipline deployment).Verified World.initial where
  upheld := creation_upheld deployment
  idle := untaken
  post := creation_post
  error := creation_error
  initial_idle := by
    intro run
    refine ⟨?_, ?_⟩ <;> rintro key ⟨draft, locked⟩ <;> cases locked
  programs := by
    intro run job state after kept idle started kept' _
    have idle : Untaken run after := by
      rcases start_cases started with rfl | ⟨_, _, _, _, rfl⟩
      · exact idle
      · exact Untaken.of_tables idle rfl
    have continuing_safe : forall {X : Type} {program : Program X}, program.OnlyCalls ContinuingOp ->
        (creation_discipline deployment).Safe run (fun _ => .fact True) (fun _ => .fact True) program after := by
      intro X program calls
      exact (continuing_triple calls after kept' idle.continuing).mono (fun _ _ _ _ => trivial) (fun _ _ _ _ => trivial)
        kept'
    cases job with
    | create command => exact creation_handle_triple command after kept' idle
    | process command => exact continuing_safe ((process_calls command).mono (fun _ => continuing_process))
    | get query => exact continuing_safe ((get_calls query).mono (fun _ => continuing_get))
    | deliver batch_size concurrency =>
        exact continuing_safe ((deliver_calls _ _ _).mono (fun _ => continuing_deliver))
    | outbox settings cycles =>
        exact continuing_safe ((outbox_calls settings run 0 cycles).mono (fun _ => continuing_outbox))
    | consume settings message =>
        exact continuing_safe ((consume_calls settings message).mono (fun _ => continuing_consume))

/-- The runs of the service keep what the payment tables guarantee. -/
theorem creation_reachable {state : (service deployment).State}
    (reached : Machine.Reachable (fun _ _ => True) World.initial state) :
    Machine.Reachable (creation_discipline deployment).allowed World.initial state :=
  (payment_verified deployment).kept_along reached

/-- A committed payment has been installed under this key. -/
def Installed (trace : List Entry) (key : UUID) (row : PaymentModel) : Prop :=
  Exists fun run => Exists fun record : Record => (.run run, .committed record) ∈ trace ∧ (key, some row) ∈ record .payments

/-- What the calls have come to in one state of the service. -/
structure CreatedOnce (state : (service deployment).State) : Prop where
  /-- No two payments with one key exist, committed or not. -/
  sole : forall key other row found, (state.shared.cell .payments key).Carries row ->
    (state.shared.cell .payments other).Carries found -> row.idempotency_key = found.idempotency_key -> key = other
  /-- Nor have two of them ever been committed. -/
  ever : forall key other row found, Installed state.shared.trace key row -> Installed state.shared.trace other found ->
    row.idempotency_key = found.idempotency_key -> key = other
  /-- One outbox row has been committed for a committed payment, and none for any other identifier. -/
  announced : forall key row, (state.shared.cell .payments key).committed = some row ->
    Exists fun id => forall other, Announced state.shared.trace key other <-> other = id
  unannounced : forall key id, (state.shared.cell .payments key).committed = none ->
    ¬ Announced state.shared.trace key id
  told : forall run command dto, state.phase run = .running (.create command) (.ret dto) ->
    Told command.idempotency_key dto state.shared
  agreeing : forall run other command command' dto dto', state.phase run = .running (.create command) (.ret dto) ->
    state.phase other = .running (.create command') (.ret dto') ->
    command.idempotency_key = command'.idempotency_key ->
    dto.payment_id = dto'.payment_id ∧ dto.created_at = dto'.created_at ∧ dto.currency = dto'.currency ∧
      dto.webhook_url = dto'.webhook_url ∧ dto.amount.value = dto'.amount.value
  /-- A call that loads the payment of a taken key is given its row. -/
  reloaded : forall run text choice after rows,
    state.pending run = some (.select .payments (.payment_by_idempotency_key text)) ->
    World.exec run (.select .payments (.payment_by_idempotency_key text)) choice state.shared = some (after, .ok rows) ->
    rows ≠ []
  unconflicting : forall run command text,
    state.phase run ≠ .running (.create command) (.raise (.idempotencyConflict text))

theorem PaymentsKept.installed_once (kept : PaymentsKept world) {key other : UUID} {row found : PaymentModel}
    (first : Installed world.trace key row) (second : Installed world.trace other found)
    (same : row.idempotency_key = found.idempotency_key) : key = other := by
  rcases first with ⟨run, record, recorded, listed⟩
  rcases second with ⟨run', record', recorded', listed'⟩
  rcases kept.installed run record key row recorded listed with ⟨later, present, grows⟩
  rcases kept.installed run' record' other found recorded' listed' with ⟨later', present', grows'⟩
  refine kept.unique key other later later' (.committed present) (.committed present') ?_
  rw [idempotency_key_of_origin grows.origin, idempotency_key_of_origin grows'.origin]
  exact same

theorem Told.agree {other : PaymentDTO} (kept : PaymentsKept world) (told : Told text dto world)
    (told' : Told text other world) : dto.payment_id = other.payment_id ∧ dto.created_at = other.created_at ∧
      dto.currency = other.currency ∧ dto.webhook_url = other.webhook_url ∧ dto.amount.value = other.amount.value := by
  rcases told with ⟨key, row, found, named, tells⟩
  rcases told' with ⟨key', row', found', named', tells'⟩
  cases kept.unique key key' row row' (.committed found) (.committed found') (named.trans named'.symm)
  cases found.symm.trans found'
  exact tells.agree tells'

/-- A transaction sees some version of every committed payment. -/
theorem PaymentsKept.sees (run : RunId) (kept : PaymentsKept world) {key : UUID}
    (found : (world.cell .payments key).committed = some row) :
    Exists fun seen : PaymentModel => (world.cell .payments key).visible run = some seen ∧
      seen.idempotency_key = row.idempotency_key := by
  by_cases mine : (world.cell .payments key).HeldBy run
  · rcases mine with ⟨draft, locked⟩
    rcases kept.drafted key run draft locked with ⟨seen, rfl, _⟩
    exact ⟨seen, Cell.visible_of_lock locked, idempotency_key_of_origin (kept.carried_origin (.draft locked) found)⟩
  · exact ⟨row, (Cell.visible_of_not_heldBy mine).trans found, rfl⟩

theorem Existing.selected (kept : PaymentsKept world) (existing : Existing text world) :
    (world.tables .payments).select run (Query.payment_by_idempotency_key text).condition ≠ [] := by
  rcases existing with ⟨key, row, found, named⟩
  rcases kept.sees run found with ⟨seen, visible, same⟩
  exact List.ne_nil_of_mem (Table.mem_select.mpr ⟨key, visible, decide_eq_true (same.trans named)⟩)

/-- Creation is idempotent, and atomic with its event. -/
theorem creations_idempotent {state : (service deployment).State}
    (reached : Machine.Reachable (fun _ _ => True) World.initial state) : CreatedOnce state := by
  have reached' := creation_reachable reached
  have kept := (creation_verified deployment).invariant reached'
  have told : forall run command dto, state.phase run = .running (.create command) (.ret dto) ->
      Told command.idempotency_key dto state.shared :=
    fun run command dto returned => (creation_verified deployment).returned reached' returned
  refine ⟨kept.payments.unique, fun key other row found => kept.payments.installed_once, kept.announced,
    fun key id => kept.unannounced, told, ?_, ?_, ?_⟩
  · intro run other command command' dto dto' returned returned' same
    exact Told.agree kept.payments (told run command dto returned) (same ▸ told other command' dto' returned')
  · intro run text choice after rows pending ran
    rcases Machine.State.running_of_pending pending with ⟨job, next, running⟩
    have permits := (creation_verified deployment).permitted reached' running
    have existing : Existing text state.shared := permits.reloading text rfl
    cases World.exec_executed ran with
    | selected _ _ accepting =>
        intro empty
        have sorted := List.perm_insertionSort
          (fun left right => (Query.payment_by_idempotency_key text).before left right = true)
          ((state.shared.tables .payments).select run (Query.payment_by_idempotency_key text).condition)
        exact existing.selected kept.payments (empty ▸ sorted).symm.eq_nil
  · intro run command text raised
    exact (creation_verified deployment).raised reached' raised text rfl

/-! ## Two calls with one key -/

/-- The key of the other order, with another amount, currency and webhook. -/
def seven_dollars : CreatePaymentCommand :=
  { five_euros with amount := .finite false 7 0, currency := "USD", webhook_url := "https://elsewhere" }

/-- Run 1 begins while run 0 has not inserted its payment yet, and inserts
after the commit of run 0. -/
def creating_twice : List (service sample_deployment).Action :=
  [.start 0 (.create five_euros), .perform 0 (.calm 10 0), .perform 0 (.calm 10 1), .start 1 (.create seven_dollars),
    .perform 1 (.calm 11 0), .perform 1 (.calm 11 5), .perform 0 (.calm 10 0), .perform 0 (.calm 10 2),
    .perform 0 (.calm 10 0), .perform 0 (.calm 10 0), .perform 1 (.calm 12 0), .perform 1 (.calm 12 0),
    .perform 0 (.calm 12 0), .perform 1 (.calm 12 0), .perform 1 (.calm 12 0)]

/-- The command of a creation that has returned, and what it has returned. -/
def created_dto (run : RunId) (state : (service deployment).State) : Option (CreatePaymentCommand × PaymentDTO) :=
  match state.phase run with
  | .running (.create command) (.ret dto) => some (command, dto)
  | _ => none

theorem of_created_dto {state : (service deployment).State} {command : CreatePaymentCommand}
    (known : created_dto run state = some (command, dto)) : state.phase run = .running (.create command) (.ret dto) := by
  unfold created_dto at known
  split at known
  · cases known
    assumption
  · cases known

/-- The second call is answered with the payment of the first one. -/
theorem second_call_answered : Exists fun state : (service sample_deployment).State => Exists fun command =>
    Exists fun dto => Machine.Reachable (fun _ _ => True) World.initial state ∧
      state.phase 1 = .running (.create command) (.ret dto) ∧ command.currency = "USD" ∧ dto.payment_id = 1 ∧
        dto.currency = "EUR" ∧ CreatedOnce state := by
  have answered : (Machine.runFrom (Machine.fresh World.initial) creating_twice).map
      (fun state => (created_dto 1 state).map (fun known => (known.1.currency, known.2.payment_id, known.2.currency))) =
      some (some ("USD", 1, "EUR")) := by decide +kernel
  rcases Option.map_eq_some_iff.mp answered with ⟨state, ran, found⟩
  rcases Option.map_eq_some_iff.mp found with ⟨⟨command, dto⟩, known, shown⟩
  rcases Prod.mk.inj shown with ⟨currency, shown⟩
  rcases Prod.mk.inj shown with ⟨payment_id, currency'⟩
  have reached := Machine.Path.of_runFrom _ ran
  exact ⟨state, command, dto, reached, of_created_dto known, currency, payment_id, currency',
    creations_idempotent reached⟩

end Properties
end Payments
