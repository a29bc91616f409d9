import Mathlib.Logic.Function.Basic
import Payments.Concurrency.Machine
import Payments.Concurrency.RowLocks
import Payments.Infrastructure.Statements
import Payments.Infrastructure.Webhook

namespace Payments
namespace Infrastructure

open Concurrency Domain

/-!
# The world around the handlers

The shared state is the database, the broker, the concurrent tasks of
`asyncio.gather` calls, a clock, and a trace of what has happened.  The trace
is written and never read by any operation.

An operation is one `await` of the source, or one call of a generator such as
`uuid7`.  A `Choice` decides what the source leaves to others: whether the call
raises, what a service answers, what a clock shows.  The rows that a session
adds are written to its own transaction at once; nobody else sees them, and
the next statement of the session raises when one of them cannot be stored.
A transaction ends by a commit, a rollback or the end of its own run only: no
connection of a run that goes on is dropped by the server.
-/

/-- A process of the system.  A worker process has a fresh identifier, which
serves as its `worker_id`. -/
abbrev RunId := Nat

/-! ## Broker messages -/

inductive QueueName where
  | main
  | retry
  deriving DecidableEq, Repr

structure DeathEntry where
  queue : QueueName
  reason : String
  count : Nat
  deriving DecidableEq, Repr

/-- The field `aggregate_id` of a message body. -/
inductive AggregateId where
  | missing
  | malformed
  | uuid (value : UUID)
  deriving DecidableEq, Repr

inductive Body where
  | undecodable
  | non_object
  | object (event_type : Option String) (aggregate_id : AggregateId) (correlation_id : Option String)
  deriving DecidableEq, Repr

structure Message where
  message_id : Option UUID
  body : Body
  correlation_id : Option String
  x_death : List DeathEntry
  deriving DecidableEq, Repr

/-- What `_publish_one` hands to the broker. -/
def Message.of_outbox (message : OutboxMessage) : Message where
  message_id := some message.id
  body := .object (some message.payload.event_type) (.uuid message.payload.aggregate_id)
    message.payload.correlation_id
  correlation_id := message.correlation_id
  x_death := []

/-- Dead-lettering counts in the entry of the queue and the reason, and moves
this entry to the front. -/
def Message.dead_letter (queue : QueueName) (reason : String) (message : Message) : Message :=
  let same := fun (entry : DeathEntry) => decide (entry.queue = queue ∧ entry.reason = reason)
  let count := ((message.x_death.find? same).map DeathEntry.count).getD 0
  { message with
    x_death := ⟨queue, reason, count + 1⟩ :: message.x_death.filter (fun entry => !same entry) }

structure Broker where
  main : List Message
  retry : List Message
  dlq : List Message
  /-- Delivered to a consumer and not yet answered. -/
  unacked : RunId -> Option Message
  /-- Sent by a publish that ended without a confirmation; it may still arrive. -/
  wire : List Message

/-! ## Concurrent tasks -/

inductive TaskState (Outcome : Type) where
  | waiting
  | running
  | finished (outcome : Outcome)
  deriving DecidableEq

/-- One `_publish` of a batch; the outcome says whether it was confirmed. -/
structure PublishTask where
  message : OutboxMessage
  landed : Bool
  state : TaskState Bool

/-- One `send_one` of a batch.  A delivery without a payment has no request
and ends at once without an outcome. -/
structure SendTask where
  delivery : WebhookDelivery
  request : Option WebhookRequest
  state : TaskState (Option ClientOutcome)

/-- The tasks of one `gather` under a semaphore. -/
structure Gather (Task : Type) where
  concurrency : Int
  tasks : List Task

/-- The semaphore admits one more task. -/
def Gather.admits {Task : Type} (running : Task -> Bool) (gather : Gather Task) : Bool :=
  decide (((gather.tasks.filter running).length : Int) < gather.concurrency)

def Gather.none {Task : Type} : Gather Task := ⟨0, []⟩

def TaskState.isRunning {Outcome : Type} : TaskState Outcome -> Bool
  | .running => true
  | _ => false

def TaskState.outcome {Outcome : Type} : TaskState Outcome -> Option Outcome
  | .finished outcome => some outcome
  | _ => Option.none

/-! ## The trace -/

/-- The versions a transaction has installed, with the rows it only locked. -/
abbrev Record := (name : TableName) -> List (UUID × Option (Row name))

inductive Event where
  | clock_read (reading : Datetime)
  | updated (name : TableName) (statement : Update name) (rows : List (Row name))
  | updated_claimable (name : TableName) (query : Query name) (statement : Update name)
      (rows : List (Row name))
  | committed (record : Record)
  | rolled_back
  | charge_called (payment_id : UUID) (amount : Money) (idempotency_key : String)
  | charge_returned (payment_id : UUID) (result : GatewayResult)
  | charge_raised (payment_id : UUID)
  | publish_called (worker : RunId) (message : OutboxMessage)
  | publish_confirmed (worker : RunId) (message : OutboxMessage)
  | publish_failed (worker : RunId) (message : OutboxMessage)
  | send_called (worker : RunId) (request : WebhookRequest)
  | send_finished (worker : RunId) (delivery_id : UUID) (outcome : ClientOutcome)
  /-- The sends of a batch have all returned. -/
  | gathered (results : List (WebhookDelivery × Option WebhookSendResult))
  | delivered (message : Message)
  | acked (message : Message)
  | nacked (message : Message)
  | dead_lettered (message : Message)
  | purged (cutoff : Datetime) (rows : List OutboxMessageModel)

/-- Who did it: a run at one of its operations, or an event of the environment. -/
inductive Actor where
  | run (id : RunId)
  | environment
  deriving DecidableEq, Repr

structure World where
  tables : (name : TableName) -> Table UUID (Row name) RunId
  /-- The session holds an added row that its next statement will find refused. -/
  refusing : RunId -> Bool
  issued : List UUID
  clock : Datetime
  broker : Broker
  publishing : RunId -> Gather PublishTask
  sending : RunId -> Gather SendTask
  /-- Newest first. -/
  trace : List (Actor × Event)

namespace World

def initial : World where
  tables := fun _ => Table.empty
  refusing := fun _ => false
  issued := []
  clock := 0
  broker := ⟨[], [], [], fun _ => none, []⟩
  publishing := fun _ => Gather.none
  sending := fun _ => Gather.none
  trace := []

def note (actor : Actor) (event : Event) (world : World) : World :=
  { world with trace := (actor, event) :: world.trace }

/-- The events of one run's own operations, newest first. -/
def own (run : RunId) (world : World) : List Event :=
  (world.trace.filter (fun entry => decide (entry.1 = .run run))).map Prod.snd

def cell (name : TableName) (key : UUID) (world : World) : Cell (Row name) RunId :=
  (world.tables name).cell key

def set_table (name : TableName) (table : Table UUID (Row name) RunId) (world : World) : World :=
  { world with tables := Function.update world.tables name table }

/-- What the transaction of a run would install. -/
def record (run : RunId) (world : World) : Record := fun name =>
  (world.tables name).keys.filterMap (fun key =>
    match (world.cell name key).lock with
    | some (holder, draft) => if holder = run then some (key, draft) else none
    | none => none)

def commit (run : RunId) (world : World) : World :=
  note (.run run) (.committed (world.record run))
    { world with tables := fun name => (world.tables name).commit run }

/-- End the transaction of a run without installing anything. -/
def release (run : RunId) (world : World) : World :=
  { world with
    tables := fun name => (world.tables name).rollback run
    refusing := Function.update world.refusing run false }

def rollback (run : RunId) (world : World) : World :=
  note (.run run) .rolled_back (world.release run)

def set_broker (broker : Broker) (world : World) : World :=
  { world with broker := broker }

def set_publishing (run : RunId) (gather : Gather PublishTask) (world : World) : World :=
  { world with publishing := Function.update world.publishing run gather }

def set_sending (run : RunId) (gather : Gather SendTask) (world : World) : World :=
  { world with sending := Function.update world.sending run gather }

end World

/-! ## Operations -/

inductive Op where
  /-- `datetime.now(UTC)`. -/
  | now
  | uuid7
  /-- `random.uniform(low, high)`. -/
  | uniform (low high : Rat)
  | select (name : TableName) (query : Query name)
  | select_for_update (name : TableName) (query : Query name) (limit : Int)
  | update (name : TableName) (statement : Update name)
  | update_claimable (name : TableName) (query : Query name) (limit : Int) (statement : Update name)
  | delete_finished (cutoff : Datetime)
  /-- `session.add`. -/
  | add (name : TableName) (row : Row name)
  /-- `INSERT ... ON CONFLICT (idempotency_key) DO NOTHING`; `none` stands for a
  row with a value that its column cannot hold. -/
  | insert_on_conflict_do_nothing (row : Option PaymentModel)
  | commit
  | rollback
  | close
  /-- The two ends of `gateway.charge`. -/
  | charge_call (payment_id : UUID) (amount : Money) (idempotency_key : String)
  | charge_return (payment_id : UUID)
  /-- The two ends of `asyncio.gather` over publishes and over sends. -/
  | publish_all (messages : List OutboxMessage) (concurrency : Int)
  | published_all
  | send_all (requests : List (WebhookDelivery × Option WebhookRequest)) (concurrency : Int)
  | sent_all
  /-- `broker.publish` to the dead letter queue. -/
  | publish_dlq (message : Message)
  | ack
  | nack

@[reducible] def Op.Answer : Op -> Type
  | .now => Datetime
  | .uuid7 => UUID
  | .uniform _ _ => Rat
  | .select name _ => List (Row name)
  | .select_for_update name _ _ => List (Row name)
  | .update name _ => List (Row name)
  | .update_claimable name _ _ _ => List (Row name)
  | .insert_on_conflict_do_nothing _ => Nat
  | .charge_return _ => GatewayResult
  | .published_all => List (OutboxMessage × Bool)
  | .sent_all => List (WebhookDelivery × Option WebhookSendResult)
  | _ => Unit

abbrev signature : Signature := ⟨Op, Op.Answer, Error⟩

abbrev Program := Prog signature

/-- Call one operation of the world. -/
abbrev await (op : Op) : Program op.Answer := @Prog.perform signature op

/-- How an awaited call may be interrupted. -/
inductive Interruption where
  | failed
  | cancelled
  deriving DecidableEq, Repr

def Interruption.error : Interruption -> Error
  | .failed => .infrastructure
  | .cancelled => .cancelled

structure Choice where
  interruption : Option Interruption
  /-- Whether an interrupted call to a service still takes effect there. -/
  takes_effect : Bool
  time : Datetime
  id : UUID
  number : Rat
  gateway : GatewayResult

/-- Nothing fails; the clock shows `time` and `id` is the next identifier. -/
def Choice.calm (time : Datetime) (id : UUID) : Choice where
  interruption := none
  takes_effect := false
  time := time
  id := id
  number := 1
  gateway := ⟨true, some "reference", none, none⟩

namespace World

/-- What every statement of a session may run into before it executes. -/
def statement {X : Type} (run : RunId) (choice : Choice) (world : World)
    (execute : Option (World × Except Error X)) : Option (World × Except Error X) :=
  if world.refusing run then some (world, .error .databaseRefused)
  else match choice.interruption with
    | some interruption => some (world, .error interruption.error)
    | none => execute

/-- A negative `LIMIT` is an error. -/
def limited {X : Type} (limit : Int) (world : World) (execute : Nat -> Option (World × Except Error X)) :
    Option (World × Except Error X) :=
  if limit < 0 then some (world, .error .databaseRefused) else execute limit.toNat

def exec_select (run : RunId) (name : TableName) (query : Query name) (choice : Choice) (world : World) :
    Option (World × Except Error (List (Row name))) :=
  statement run choice world
    (some (world, .ok (((world.tables name).select run query.condition).insertionSort
      (fun left right => query.before left right))))

def exec_select_for_update (run : RunId) (name : TableName) (query : Query name) (limit : Int)
    (choice : Choice) (world : World) : Option (World × Except Error (List (Row name))) :=
  statement run choice world (limited limit world (fun limit =>
    let selected := (world.tables name).selectForUpdate run query.condition query.before limit
    some (world.set_table name selected.1, .ok selected.2)))

def exec_update (run : RunId) (name : TableName) (update : Update name) (choice : Choice) (world : World) :
    Option (World × Except Error (List (Row name))) :=
  statement run choice world
    (((world.tables name).update run update.condition (update.values choice.time)).map (fun updated =>
      if updated.2.all Row.storable then
        (note (.run run) (.updated name update updated.2) (world.set_table name updated.1), .ok updated.2)
      else (world, .error .databaseRefused)))

def exec_update_claimable (run : RunId) (name : TableName) (query : Query name) (limit : Int)
    (update : Update name) (choice : Choice) (world : World) :
    Option (World × Except Error (List (Row name))) :=
  statement run choice world (limited limit world (fun limit =>
    let updated := (world.tables name).updateClaimable run query.condition query.before limit
      (update.values choice.time)
    if updated.2.all Row.storable then
      some (note (.run run) (.updated_claimable name query update updated.2)
        (world.set_table name updated.1), .ok updated.2)
    else some (world, .error .databaseRefused)))

def exec_delete (run : RunId) (cutoff : Datetime) (choice : Choice) (world : World) :
    Option (World × Except Error Unit) :=
  statement run choice world
    (((world.tables .outbox_messages).delete run (purgeable cutoff)).map (fun table =>
      (note (.run run)
        (.purged cutoff ((world.tables .outbox_messages).select run (purgeable cutoff)))
        (world.set_table .outbox_messages table), .ok ())))

/-- A key that was ever listed is not accepted again. -/
def exec_add (run : RunId) (name : TableName) (row : Row name) (world : World) : World :=
  if row.storable && decide (row.id ∉ (world.tables name).keys) then
    world.set_table name ((world.tables name).put run row.id row)
  else { world with refusing := Function.update world.refusing run true }

/-- A row of the idempotency key that this transaction sees. -/
def conflicts (run : RunId) (idempotency_key : String) (world : World) : Bool :=
  !((world.tables .payments).matching run
    (fun row => decide (PaymentModel.idempotency_key row = idempotency_key))).isEmpty

/-- An uncommitted row of the idempotency key in another transaction. -/
def contended (run : RunId) (idempotency_key : String) (world : World) : Bool :=
  (world.tables .payments).keys.any (fun key =>
    match (world.cell .payments key).lock with
    | some (holder, some row) =>
        decide (holder ≠ run) && decide (PaymentModel.idempotency_key row = idempotency_key)
    | _ => false)

def exec_insert (run : RunId) (row : PaymentModel) (choice : Choice) (world : World) :
    Option (World × Except Error Nat) :=
  statement run choice world
    (if !row.storable then some (world, .error .databaseRefused)
    else if world.conflicts run row.idempotency_key then some (world, .ok 0)
    else if world.contended run row.idempotency_key then none
    else if row.id ∈ (world.tables .payments).keys then some (world, .error .databaseRefused)
    else some (world.set_table .payments ((world.tables .payments).put run row.id row), .ok 1))

/-- A commit that is interrupted may have happened. -/
def exec_commit (run : RunId) (choice : Choice) (world : World) : World × Except Error Unit :=
  if world.refusing run then (world, .error .databaseRefused)
  else match choice.interruption with
    | some interruption =>
        (if choice.takes_effect then world.commit run else world, .error interruption.error)
    | none => (world.commit run, .ok ())

/-- Whether or not the call raises, the server ends the transaction. -/
def exec_rollback (run : RunId) (choice : Choice) (world : World) : World × Except Error Unit :=
  (world.rollback run,
    match choice.interruption with
    | some interruption => .error interruption.error
    | none => .ok ())

def exec_close (run : RunId) (choice : Choice) (world : World) : World × Except Error Unit :=
  (world.release run,
    match choice.interruption with
    | some interruption => .error interruption.error
    | none => .ok ())

def exec_charge_return (run : RunId) (payment_id : UUID) (choice : Choice) (world : World) :
    World × Except Error GatewayResult :=
  match choice.interruption with
  | some interruption => (world.note (.run run) (.charge_raised payment_id), .error interruption.error)
  | none =>
      (world.note (.run run) (.charge_returned payment_id choice.gateway), .ok choice.gateway)

/-- `asyncio.Semaphore` refuses a negative value. -/
def exec_publish_all (run : RunId) (messages : List OutboxMessage) (concurrency : Int) (world : World) :
    World × Except Error Unit :=
  if concurrency < 0 then (world, .error (.valueError "Semaphore initial value must be >= 0"))
  else (world.set_publishing run ⟨concurrency, messages.map (fun message => ⟨message, false, .waiting⟩)⟩,
    .ok ())

/-- Cancelled publishes: those that were sent may still arrive. -/
def abandon_publishing (run : RunId) (world : World) : World :=
  let sent := (world.publishing run).tasks.filter (fun task => task.state.isRunning && !task.landed)
  (world.set_publishing run Gather.none).set_broker
    { world.broker with wire := sent.map (fun task => Message.of_outbox task.message) ++ world.broker.wire }

/-- The message of a publish that has ended, and whether it was confirmed. -/
def publish_result (task : PublishTask) : Option (OutboxMessage × Bool) :=
  task.state.outcome.map (fun confirmed => (task.message, confirmed))

/-- A publish task never raises an `Exception`, so only a cancellation ends
the wait early. -/
def exec_published_all (run : RunId) (choice : Choice) (world : World) :
    Option (World × Except Error (List (OutboxMessage × Bool))) :=
  match choice.interruption with
  | some _ => some (world.abandon_publishing run, .error .cancelled)
  | none =>
      ((world.publishing run).tasks.mapM publish_result).map (fun results =>
        (world.set_publishing run Gather.none, .ok results))

def exec_send_all (run : RunId) (requests : List (WebhookDelivery × Option WebhookRequest))
    (concurrency : Int) (world : World) : World × Except Error Unit :=
  if concurrency < 0 then (world, .error (.valueError "Semaphore initial value must be >= 0"))
  else (world.set_sending run ⟨concurrency, requests.map (fun request =>
      ⟨request.1, request.2, if request.2.isSome then .waiting else .finished none⟩)⟩, .ok ())

/-- What `send_one` ends with. -/
def sent (outcome : Option ClientOutcome) : Except Error (Option WebhookSendResult) :=
  match outcome with
  | none => .ok none
  | some outcome => (send outcome).map some

/-- The exception of a send that has ended with one. -/
def send_error (task : SendTask) : Option Error :=
  match task.state with
  | .finished (some (.other_error message)) => some (.httpClient message)
  | _ => none

/-- The entry of a send in the list that `gather` returns. -/
def send_result (task : SendTask) : Option (WebhookDelivery × Option WebhookSendResult) :=
  match task.state with
  | .finished outcome =>
      match sent outcome with
      | .ok result => some (task.delivery, result)
      | .error _ => none
  | _ => none

/-- The first exception of a task is raised at once, and the other tasks go on;
a cancellation cancels them. -/
def exec_sent_all (run : RunId) (choice : Choice) (world : World) :
    Option (World × Except Error (List (WebhookDelivery × Option WebhookSendResult))) :=
  match choice.interruption with
  | some _ => some (world.set_sending run Gather.none, .error .cancelled)
  | none =>
      match (world.sending run).tasks.findSome? send_error with
      | some error => some (world, .error error)
      | none =>
          ((world.sending run).tasks.mapM send_result).map (fun results =>
            (note (.run run) (.gathered results) (world.set_sending run Gather.none), .ok results))

def dead_letter (run : RunId) (message : Message) (world : World) : World :=
  note (.run run) (.dead_lettered message)
    (world.set_broker { world.broker with dlq := message :: world.broker.dlq })

def exec_publish_dlq (run : RunId) (message : Message) (choice : Choice) (world : World) :
    World × Except Error Unit :=
  match choice.interruption with
  | some interruption =>
      (if choice.takes_effect then world.dead_letter run message else world, .error interruption.error)
  | none => (world.dead_letter run message, .ok ())

def acknowledge (run : RunId) (message : Message) (world : World) : World :=
  note (.run run) (.acked message)
    (world.set_broker { world.broker with unacked := Function.update world.broker.unacked run none })

/-- The message goes along the dead-letter route of the main queue. -/
def reject (run : RunId) (message : Message) (world : World) : World :=
  note (.run run) (.nacked message)
    (world.set_broker { world.broker with
      unacked := Function.update world.broker.unacked run none
      retry := message.dead_letter .main "rejected" :: world.broker.retry })

/-- Answering a message the broker has taken back fails. -/
def exec_answer (run : RunId) (answer : Message -> World -> World) (choice : Choice) (world : World) :
    World × Except Error Unit :=
  match world.broker.unacked run with
  | none => (world, .error .infrastructure)
  | some message =>
      match choice.interruption with
      | some interruption =>
          (if choice.takes_effect then answer message world else world, .error interruption.error)
      | none => (answer message world, .ok ())

/-- One operation of a run, or `none` while it has to wait. -/
def exec (run : RunId) : (op : Op) -> Choice -> World -> Option (World × Except Error op.Answer)
  | .now, choice, world => some (world.note (.run run) (.clock_read choice.time), .ok choice.time)
  | .uuid7, choice, world =>
      if choice.id ∈ world.issued then none
      else some ({ world with issued := choice.id :: world.issued }, .ok choice.id)
  | .uniform low high, choice, world =>
      if min low high ≤ choice.number ∧ choice.number ≤ max low high then
        some (world, .ok choice.number)
      else none
  | .select name query, choice, world => exec_select run name query choice world
  | .select_for_update name query limit, choice, world =>
      exec_select_for_update run name query limit choice world
  | .update name update, choice, world => exec_update run name update choice world
  | .update_claimable name query limit update, choice, world =>
      exec_update_claimable run name query limit update choice world
  | .delete_finished cutoff, choice, world => exec_delete run cutoff choice world
  | .add name row, _, world => some (exec_add run name row world, .ok ())
  | .insert_on_conflict_do_nothing none, choice, world =>
      statement run choice world (some (world, .error .databaseRefused))
  | .insert_on_conflict_do_nothing (some row), choice, world => exec_insert run row choice world
  | .commit, choice, world => some (exec_commit run choice world)
  | .rollback, choice, world => some (exec_rollback run choice world)
  | .close, choice, world => some (exec_close run choice world)
  | .charge_call payment_id amount idempotency_key, _, world =>
      some (world.note (.run run) (.charge_called payment_id amount idempotency_key), .ok ())
  | .charge_return payment_id, choice, world => some (exec_charge_return run payment_id choice world)
  | .publish_all messages concurrency, _, world =>
      some (exec_publish_all run messages concurrency world)
  | .published_all, choice, world => exec_published_all run choice world
  | .send_all requests concurrency, _, world => some (exec_send_all run requests concurrency world)
  | .sent_all, choice, world => exec_sent_all run choice world
  | .publish_dlq message, choice, world => some (exec_publish_dlq run message choice world)
  | .ack, choice, world => some (exec_answer run (acknowledge run) choice world)
  | .nack, choice, world => some (exec_answer run (reject run) choice world)

/-! ## What happens without any run -/

/-- Give an unanswered message back to the main queue. -/
def requeue (run : RunId) (world : World) : World :=
  match world.broker.unacked run with
  | none => world
  | some message =>
      world.set_broker { world.broker with
        unacked := Function.update world.broker.unacked run none
        main := message :: world.broker.main }

/-- The process dies: its connections break and its tasks end. -/
def crash (run : RunId) (world : World) : World :=
  ((requeue run (world.rollback run)).abandon_publishing run).set_sending run Gather.none

end World

inductive Occurrence where
  | tick (time : Datetime)
  /-- The time to live of a message in the retry queue ends. -/
  | expire (index : Nat)
  /-- The broker takes an unanswered message back. -/
  | requeue (run : RunId)
  /-- A message sent by an unconfirmed publish arrives. -/
  | land (index : Nat)
  | start_publish (run : RunId) (index : Nat)
  | land_publish (run : RunId) (index : Nat)
  | finish_publish (run : RunId) (index : Nat) (confirmed : Bool)
  | start_send (run : RunId) (index : Nat)
  | finish_send (run : RunId) (index : Nat) (outcome : ClientOutcome)

namespace World

def set_publish_task (run : RunId) (index : Nat) (task : PublishTask) (world : World) : World :=
  world.set_publishing run
    { world.publishing run with tasks := (world.publishing run).tasks.set index task }

def set_send_task (run : RunId) (index : Nat) (task : SendTask) (world : World) : World :=
  world.set_sending run { world.sending run with tasks := (world.sending run).tasks.set index task }

def start_publish (run : RunId) (index : Nat) (world : World) : Option World :=
  match (world.publishing run).tasks[index]? with
  | some ⟨message, landed, .waiting⟩ =>
      if (world.publishing run).admits (fun task => task.state.isRunning) then
        some (note .environment (.publish_called run message)
          (world.set_publish_task run index ⟨message, landed, .running⟩))
      else none
  | _ => none

/-- The message arrives in the main queue: the exchange is assumed to route
`RABBITMQ_ROUTING_KEY` there. -/
def land_publish (run : RunId) (index : Nat) (world : World) : Option World :=
  match (world.publishing run).tasks[index]? with
  | some ⟨message, false, .running⟩ =>
      some ((world.set_publish_task run index ⟨message, true, .running⟩).set_broker
        { world.broker with main := Message.of_outbox message :: world.broker.main })
  | _ => none

/-- A publish is confirmed only after its message has arrived. -/
def finish_publish (run : RunId) (index : Nat) (confirmed : Bool) (world : World) : Option World :=
  match (world.publishing run).tasks[index]? with
  | some ⟨message, landed, .running⟩ =>
      let world' := world.set_publish_task run index ⟨message, landed, .finished confirmed⟩
      if confirmed then
        if landed then some (world'.note .environment (.publish_confirmed run message)) else none
      else
        some (note .environment (.publish_failed run message)
          (if landed then world'
          else world'.set_broker
            { world.broker with wire := Message.of_outbox message :: world.broker.wire }))
  | _ => none

def start_send (run : RunId) (index : Nat) (world : World) : Option World :=
  match (world.sending run).tasks[index]? with
  | some ⟨delivery, some request, .waiting⟩ =>
      if (world.sending run).admits (fun task => task.state.isRunning) then
        some (note .environment (.send_called run request)
          (world.set_send_task run index ⟨delivery, some request, .running⟩))
      else none
  | _ => none

def finish_send (run : RunId) (index : Nat) (outcome : ClientOutcome) (world : World) : Option World :=
  match (world.sending run).tasks[index]? with
  | some ⟨delivery, request, .running⟩ =>
      some (note .environment (.send_finished run delivery.id outcome)
        (world.set_send_task run index
          ⟨delivery, request, .finished (some outcome)⟩))
  | _ => none

def happen : Occurrence -> World -> Option World
  | .tick time, world => some { world with clock := time }
  | .expire index, world =>
      (world.broker.retry[index]?).map (fun message =>
        world.set_broker { world.broker with
          retry := world.broker.retry.eraseIdx index
          main := message.dead_letter .retry "expired" :: world.broker.main })
  | .requeue run, world => some (world.requeue run)
  | .land index, world =>
      (world.broker.wire[index]?).map (fun message =>
        world.set_broker { world.broker with
          wire := world.broker.wire.eraseIdx index
          main := message :: world.broker.main })
  | .start_publish run index, world => world.start_publish run index
  | .land_publish run index, world => world.land_publish run index
  | .finish_publish run index confirmed, world => world.finish_publish run index confirmed
  | .start_send run index, world => world.start_send run index
  | .finish_send run index outcome, world => world.finish_send run index outcome

end World
end Infrastructure
end Payments
