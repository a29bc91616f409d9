import Payments.Properties.MessageCopies

namespace Payments
namespace Properties

open Concurrency Domain Infrastructure Application Payments.System

/-!
# Where messages come from

Every message that the broker holds, and every message that a worker publishes,
is that of an outbox row which a transaction on record has installed.  A
consumer is therefore only ever handed the message of a committed payment.
-/

variable {deployment : Deployment} {world after : World} {run worker : RunId} {op : Op} {id : UUID} {message : Message}
  {lost : Message -> Prop} {row other : OutboxMessageModel} {task : PublishTask}

/-! ## Versions of an outbox row -/

/-- A version of the outbox row, on record or in its cell. -/
inductive Version (id : UUID) (row : OutboxMessageModel) (world : World) : Prop where
  | posted (posted : Posted world.trace id row)
  | carried (carried : (world.cell .outbox_messages id).Carries row)

/-- All versions of an outbox row tell the same. -/
structure Worded (world : World) : Prop where
  listed : forall id row, Posted world.trace id row -> id ∈ (world.tables .outbox_messages).keys
  agreeing : forall id row other, Version id row world -> Version id other world -> as_added row = as_added other

theorem message_of_same (same : as_added other = as_added row) :
    Message.of_outbox other.to_domain = Message.of_outbox row.to_domain := by
  rcases other with ⟨_, _, _, _, _, _, _, _, _, _, _, _, _⟩
  rcases row with ⟨_, _, _, _, _, _, _, _, _, _, _, _, _⟩
  cases same
  rfl

theorem worded_initially : Worded World.initial where
  listed := by
    rintro id row ⟨run, record, recorded, _⟩
    cases recorded
  agreeing := by
    intro id row other version
    cases version with
    | posted posted =>
        rcases posted with ⟨run, record, recorded, _⟩
        cases recorded
    | carried carried =>
        cases carried with
        | committed same => cases same
        | draft same => cases same

/-- Every version stems from an earlier one. -/
theorem Worded.of_earlier (worded : Worded world)
    (listed : forall id row, Posted after.trace id row -> id ∈ (after.tables .outbox_messages).keys)
    (earlier : forall id row, Version id row after ->
      Exists fun old => Version id old world ∧ as_added row = as_added old) : Worded after where
  listed := listed
  agreeing := by
    intro id row other version version'
    rcases earlier id row version with ⟨old, known, same⟩
    rcases earlier id other version' with ⟨old', known', same'⟩
    exact same.trans ((worded.agreeing id old old' known known').trans same'.symm)

/-- A step without a commit and without a new row. -/
theorem Worded.moved (worded : Worded world) {new : List Entry} (trace : after.trace = new ++ world.trace)
    (uncommitted : forall run record, (.run run, .committed record) ∉ new)
    (listed : forall key, key ∈ (world.tables .outbox_messages).keys -> key ∈ (after.tables .outbox_messages).keys)
    (carries : forall id row, (after.cell .outbox_messages id).Carries row ->
      (world.cell .outbox_messages id).Carries row) : Worded after := by
  refine worded.of_earlier (fun id row posted => ?_) (fun id row version => ?_)
  · exact listed id (worded.listed id row ((posted_moved trace uncommitted).mp posted))
  · cases version with
    | posted posted => exact ⟨row, .posted ((posted_moved trace uncommitted).mp posted), rfl⟩
    | carried carried => exact ⟨row, .carried (carries id row carried), rfl⟩

/-- What an operation puts on record was a draft of its run. -/
theorem posted_executed {answer : Except Error op.Answer} (executed : World.Executed run world op after answer)
    (posted : Posted after.trace id row) :
    Posted world.trace id row ∨ (world.cell .outbox_messages id).lock = some (run, some row) := by
  rcases executed.trace with same | ⟨event, records, same⟩
  · exact .inl (same ▸ posted)
  · rcases posted with ⟨owner, record, recorded, listed⟩
    rw [same] at recorded
    rcases List.mem_cons.mp recorded with new | before
    · cases new
      cases records with
      | committed => exact .inr (World.mem_record.mp listed)
    · exact .inl ⟨owner, record, before, listed⟩

theorem Worded.executed (worded : Worded world) {answer : Except Error op.Answer}
    (executed : World.Executed run world op after answer) : Worded after := by
  have drafted : forall {id row}, (world.cell .outbox_messages id).lock = some (run, some row) ->
      id ∈ (world.tables .outbox_messages).keys := by
    intro id row locked
    by_contra unlisted
    rw [World.cell_of_unlisted unlisted] at locked
    cases locked
  have listed : forall id row, Posted after.trace id row -> id ∈ (after.tables .outbox_messages).keys := by
    intro id row posted
    rcases posted_executed executed posted with before | locked
    · exact executed.listed (worded.listed id row before)
    · exact executed.listed (drafted locked)
  have stems : forall id row, Version id row after ->
      (Exists fun old => Version id old world ∧ as_added row = as_added old) ∨
        (op = .add .outbox_messages row ∧ row.id = id) := by
    intro id row version
    cases version with
    | posted posted =>
        rcases posted_executed executed posted with before | locked
        · exact .inl ⟨row, .posted before, rfl⟩
        · exact .inl ⟨row, .carried (.draft locked), rfl⟩
    | carried carried =>
        rcases (executed.cell .outbox_messages id).carries carried with before | writes
        · exact .inl ⟨row, .carried before, rfl⟩
        · cases writes with
          | updated statement time old operation found selected same =>
              subst same
              exact .inl ⟨old, .carried (Cell.carries_of_visible found), as_added_values statement time old⟩
          | claimed query limit statement time old operation found selected same =>
              subst same
              exact .inl ⟨old, .carried (Cell.carries_of_visible found), as_added_values statement time old⟩
          | added operation own => exact .inr ⟨operation, own⟩
          | inserted new table => cases table
  by_cases adds : Exists fun row => op = .add .outbox_messages row
  · rcases adds with ⟨new, rfl⟩
    rcases executed.add_cases with tables | unlisted
    · have cells : forall id, after.cell .outbox_messages id = world.cell .outbox_messages id := by
        intro id
        rw [World.cell, World.cell, tables]
      refine worded.of_earlier listed (fun id row version => ?_)
      cases version with
      | posted posted =>
          rcases posted_executed executed posted with before | locked
          · exact ⟨row, .posted before, rfl⟩
          · exact ⟨row, .carried (.draft locked), rfl⟩
      | carried carried => exact ⟨row, .carried (cells id ▸ carried), rfl⟩
    · -- Nothing was known of the new key.
      have unknown : forall old, ¬ Version new.id old world := by
        intro old version
        cases version with
        | posted posted => exact unlisted (worded.listed new.id old posted)
        | carried carried =>
            rw [World.cell_of_unlisted unlisted] at carried
            cases carried with
            | committed same => cases same
            | draft same => cases same
      refine ⟨listed, fun id row other version version' => ?_⟩
      rcases stems id row version with ⟨old, known, same⟩ | ⟨operation, own⟩
      · rcases stems id other version' with ⟨old', known', same'⟩ | ⟨operation', own'⟩
        · exact same.trans ((worded.agreeing id old old' known known').trans same'.symm)
        · cases operation'
          subst own'
          exact absurd known (unknown old)
      · rcases stems id other version' with ⟨old', known', same'⟩ | ⟨operation', own'⟩
        · cases operation
          subst own
          exact absurd known' (unknown old')
        · cases operation
          cases operation'
          rfl
  · exact worded.of_earlier listed (fun id row version =>
      (stems id row version).resolve_right (fun new => adds ⟨row, new.1⟩))

theorem Worded.crash (worded : Worded world) : Worded (world.crash run) := by
  refine @Worded.moved world (world.crash run) worded [(.run run, .rolled_back)] World.crash_trace ?_
    (fun _ => World.crash_listed) (fun id row carried => ?_)
  · intro owner record listed
    cases List.mem_singleton.mp listed
  · rw [World.crash_cell] at carried
    exact Cell.carries_of_rollback carried

theorem Worded.of_tables (worded : Worded world) {new : List Entry} (trace : after.trace = new ++ world.trace)
    (uncommitted : forall run record, (.run run, .committed record) ∉ new) (tables : after.tables = world.tables) :
    Worded after := by
  refine worded.moved trace uncommitted (fun key listed => tables ▸ listed) (fun id row carried => ?_)
  rwa [World.cell, tables] at carried

theorem Worded.occurred (worded : Worded world) (occurred : World.Occurred world after) : Worded after := by
  rcases occurred.trace with same | ⟨noted, _, same⟩
  · exact @Worded.of_tables world after worded [] same (fun _ _ => List.not_mem_nil) occurred.tables
  · refine @Worded.of_tables world after worded [(.environment, noted)] same ?_ occurred.tables
    intro owner record listed
    cases List.mem_singleton.mp listed

/-! ## Publishes over one step -/

/-- A task of a worker was there before the operation, or it waits for its call. -/
theorem tasks_executed {answer : Except Error op.Answer} (executed : World.Executed run world op after answer)
    (listed : task ∈ (after.publishing worker).tasks) : task ∈ (world.publishing worker).tasks ∨
      (task.landed = false ∧ Exists fun messages => Exists fun concurrency =>
        op = .publish_all messages concurrency ∧ task.message ∈ messages) := by
  by_cases mine : worker = run
  · subst mine
    rcases own_publishing_executed executed with same | none | ⟨messages, concurrency, operation, started⟩
    · exact .inl (same ▸ listed)
    · rw [none] at listed
      cases listed
    · rw [started] at listed
      rcases List.mem_map.mp listed with ⟨message, member, rfl⟩
      exact .inr ⟨rfl, messages, concurrency, operation, member⟩
  · exact .inl (publishing_executed executed mine ▸ listed)

theorem tasks_crash (listed : task ∈ ((world.crash run).publishing worker).tasks) :
    task ∈ (world.publishing worker).tasks := by
  by_cases mine : worker = run
  · subst mine
    rw [crash_publishing] at listed
    cases listed
  · rwa [crash_publishing_of_ne mine] at listed

/-- Replacing one task of a worker. -/
theorem tasks_set {owner : RunId} {index : Nat} {old new : PublishTask}
    (found : (world.publishing owner).tasks[index]? = some old)
    (listed : task ∈ ((world.set_publish_task owner index new).publishing worker).tasks) :
    task ∈ (world.publishing worker).tasks ∨ (task = new ∧ old ∈ (world.publishing worker).tasks) := by
  have listed : task ∈ (Function.update world.publishing owner { world.publishing owner with
      tasks := (world.publishing owner).tasks.set index new } worker).tasks := listed
  by_cases same : worker = owner
  · subst same
    rw [Function.update_self] at listed
    rcases List.mem_or_eq_of_mem_set listed with before | rfl
    · exact .inl before
    · exact .inr ⟨rfl, List.mem_of_getElem? found⟩
  · rw [Function.update_of_ne same] at listed
    exact .inl listed

/-- A task of the environment's step was a task of the same message before, and
its message arrives when it lands. -/
theorem tasks_occurred (occurred : World.Occurred world after) (listed : task ∈ (after.publishing worker).tasks) :
    Exists fun old => old ∈ (world.publishing worker).tasks ∧ task.message = old.message ∧
      (task.landed = true -> old.landed = true ∨ InFlight after.broker (Message.of_outbox task.message)) := by
  have moved : forall {owner : RunId} {index : Nat} {old new : PublishTask},
      (world.publishing owner).tasks[index]? = some old ->
      task ∈ ((world.set_publish_task owner index new).publishing worker).tasks -> new.message = old.message ->
      (new.landed = true -> old.landed = true ∨ InFlight after.broker (Message.of_outbox new.message)) ->
      Exists fun old => old ∈ (world.publishing worker).tasks ∧ task.message = old.message ∧
        (task.landed = true -> old.landed = true ∨ InFlight after.broker (Message.of_outbox task.message)) := by
    intro owner index old new found listed same lands
    rcases tasks_set found listed with before | ⟨rfl, member⟩
    · exact ⟨task, before, rfl, .inl⟩
    · exact ⟨old, member, same, lands⟩
  cases occurred with
  | publish_started owner index message landed found => exact moved found listed rfl .inl
  | publish_landed owner index message found =>
      exact moved found listed rfl (fun _ => .inr (.main List.mem_cons_self))
  | publish_confirmed owner index message found => exact moved found listed rfl .inl
  | publish_failed owner index message landed found => exact moved found listed rfl .inl
  | _ => exact ⟨task, listed, rfl, .inl⟩

/-- A publish is confirmed when its message has arrived. -/
theorem confirmed_occurred {message : OutboxMessage} (occurred : World.Occurred world after)
    (recorded : (.environment, .publish_confirmed worker message) ∈ after.trace) :
    (.environment, .publish_confirmed worker message) ∈ world.trace ∨
      Exists fun task => task ∈ (world.publishing worker).tasks ∧ task.message = message ∧ task.landed = true := by
  rcases occurred.trace with same | ⟨noted, _, same⟩
  · exact .inl (same ▸ recorded)
  · rcases List.mem_cons.mp (same ▸ recorded) with new | before
    · cases new
      cases occurred with
      | publish_confirmed owner index message found =>
          cases same
          exact .inr ⟨_, List.mem_of_getElem? found, rfl, rfl⟩
      | publish_failed owner index message landed found => cases same
      | publish_started owner index message landed found => cases same
      | send_started owner index delivery request found => cases same
      | send_finished owner index delivery request outcome found => cases same
      | _ => exact absurd same.symm (List.cons_ne_self _ _)
    · exact .inl before

/-! ## The origin of a message -/

/-- The message was sent for an outbox row on record. -/
def Published (trace : List Entry) (message : Message) : Prop :=
  Exists fun row => Posted trace row.id row ∧ Copy (Message.of_outbox row.to_domain) message

/-- The message tells a consumer to process the payment. -/
def Concerns (key : UUID) (message : Message) : Prop :=
  Exists fun correlation_id =>
    message.body = .object (some PaymentConsumerHandler.PAYMENT_CREATED) (.uuid key) correlation_id

/-- A consumer is handed messages of payments on record. -/
def Acquainted (entry : Entry) (earlier : List Entry) : Prop :=
  forall run message, entry = (.run run, .delivered message) ->
    Exists fun key => Concerns key message ∧ ¬ Unmentioned key earlier

structure MessagesKept (world : World) : Prop where
  worded : Worded world
  tasks : forall worker task, task ∈ (world.publishing worker).tasks ->
    Exists fun row => Posted world.trace row.id row ∧ task.message = row.to_domain
  confirmed : forall worker message, (.environment, .publish_confirmed worker message) ∈ world.trace ->
    Exists fun row => Posted world.trace row.id row ∧ message = row.to_domain
  held : forall message, Held world.broker message -> Published world.trace message
  handed : forall run message, world.broker.unacked run = some message -> (.run run, .delivered message) ∈ world.trace
  acquainted : Along Acquainted world.trace

theorem messages_kept_initially : MessagesKept World.initial where
  worded := worded_initially
  tasks := fun _ _ listed => by cases listed
  confirmed := fun _ _ recorded => by cases recorded
  held := by
    intro message held
    cases held with
    | wired listed => cases listed
    | flying present =>
        cases present with
        | main listed => cases listed
        | retry listed => cases listed
        | delivered run held => cases held
  handed := fun _ _ held => by cases held
  acquainted := .nil

theorem Published.mono {trace later : List Entry} (published : Published trace message) (grown : trace <:+ later) :
    Published later message := by
  rcases published with ⟨row, posted, copy⟩
  exact ⟨row, posted.mono grown, copy⟩

/-- A published message is about a committed payment. -/
theorem CreationsKept.concerned (kept : CreationsKept world) (posted : Posted world.trace id row)
    (copy : Copy (Message.of_outbox row.to_domain) message) : Concerns row.aggregate_id message := by
  rcases kept.announcing id row posted with ⟨payment, _, announces⟩
  rcases announces.payload with ⟨occurred_at, amount, tells⟩
  have body := copy.body
  refine ⟨row.payload.correlation_id, body.trans ?_⟩
  rw [announces.aggregate_id]
  change Body.object (some row.payload.event_type) (.uuid row.payload.aggregate_id) row.payload.correlation_id = _
  rw [tells]
  rfl

theorem CreationsKept.mentioned (kept : CreationsKept world) (posted : Posted world.trace id row) :
    ¬ Unmentioned row.aggregate_id world.trace := by
  intro unmentioned
  rcases kept.announcing id row posted with ⟨payment, found, _⟩
  rcases kept.payments.recorded row.aggregate_id payment found with ⟨run, record, recorded, listed⟩
  exact unmentioned run record payment recorded listed

/-- What a step has to add to the messages. -/
theorem MessagesKept.stepped (kept : MessagesKept world) (worded : Worded after) (passing : Passing lost world after)
    (recorded : after.trace = world.trace ∨
      Exists fun entry => after.trace = entry :: world.trace ∧ Acquainted entry world.trace)
    (tasks : forall worker task, task ∈ (after.publishing worker).tasks ->
      (Exists fun old => old ∈ (world.publishing worker).tasks ∧ task.message = old.message) ∨
        Exists fun row => Posted world.trace row.id row ∧ task.message = row.to_domain)
    (confirmed : forall worker message, (.environment, .publish_confirmed worker message) ∈ after.trace ->
      (.environment, .publish_confirmed worker message) ∈ world.trace ∨
        Exists fun task => task ∈ (world.publishing worker).tasks ∧ task.message = message)
    (handed : forall owner message, after.broker.unacked owner = some message ->
      world.broker.unacked owner = some message ∨ (.run owner, .delivered message) ∈ after.trace) :
    MessagesKept after := by
  have grown : world.trace <:+ after.trace := by
    rcases recorded with same | ⟨entry, same, _⟩
    · exact same ▸ List.suffix_rfl
    · exact same ▸ List.suffix_cons _ _
  refine ⟨worded, fun worker task listed => ?_, fun worker message listed => ?_, fun message held => ?_,
    fun owner message held => ?_, ?_⟩
  · rcases tasks worker task listed with ⟨old, before, same⟩ | ⟨row, posted, same⟩
    · rcases kept.tasks worker old before with ⟨row, posted, same'⟩
      exact ⟨row, posted.mono grown, same.trans same'⟩
    · exact ⟨row, posted.mono grown, same⟩
  · rcases confirmed worker message listed with before | ⟨task, before, rfl⟩
    · rcases kept.confirmed worker message before with ⟨row, posted, same⟩
      exact ⟨row, posted.mono grown, same⟩
    · rcases kept.tasks worker task before with ⟨row, posted, same⟩
      exact ⟨row, posted.mono grown, same⟩
  · rcases passing.came message held with ⟨sent, before, copy⟩ | ⟨worker, task, before, copy⟩
    · rcases kept.held sent before with ⟨row, posted, copy'⟩
      exact ⟨row, posted.mono grown, copy'.trans copy⟩
    · rcases kept.tasks worker task before with ⟨row, posted, same⟩
      exact ⟨row, posted.mono grown, same ▸ copy⟩
  · rcases handed owner message held with before | now
    · exact grown.subset (kept.handed owner message before)
    · exact now
  · rcases recorded with same | ⟨entry, same, acquainted⟩
    · exact same ▸ kept.acquainted
    · exact same ▸ kept.acquainted.cons acquainted

theorem MessagesKept.delivered (kept : MessagesKept world) (creations : CreationsKept world)
    (listed : message ∈ world.broker.main) (idle : world.broker.unacked run = none) :
    MessagesKept (deliver run message world) := by
  have passing : Passing (fun _ => False) world (deliver run message world) := passing_delivered listed idle
  refine kept.stepped ?_ passing (.inr ⟨_, rfl, ?_⟩) (fun worker task listed => .inl ⟨task, listed, rfl⟩)
    (fun worker found recorded => ?_) (fun owner found held => ?_)
  · refine @Worded.of_tables world (deliver run message world) kept.worded [(.run run, .delivered message)] rfl ?_ rfl
    intro owner record member
    cases List.mem_singleton.mp member
  · intro owner found same
    cases same
    rcases kept.held message (.flying (.main listed)) with ⟨row, posted, copy⟩
    exact ⟨row.aggregate_id, creations.concerned posted copy, creations.mentioned posted⟩
  · rcases List.mem_cons.mp recorded with new | before
    · cases new
    · exact .inl before
  · have held : Function.update world.broker.unacked run (some message) owner = some found := held
    by_cases same : owner = run
    · subst same
      rw [Function.update_self] at held
      cases held
      exact .inr List.mem_cons_self
    · exact .inl ((Function.update_of_ne same _ _).symm.trans held)

theorem unacked_executed {answer : Except Error op.Answer} (executed : World.Executed run world op after answer)
    {owner : RunId} (held : after.broker.unacked owner = some message) : world.broker.unacked owner = some message := by
  by_cases mine : owner = run
  · subst mine
    have removed : Function.update world.broker.unacked owner none owner ≠ some message := by simp
    cases executed with
    | acked found taken answer known => exact absurd held removed
    | nacked found taken answer known => exact absurd held removed
    | _ => exact held
  · rcases (executed.untouched mine).unacked with same | gone
    · exact same.symm.trans held
    · rw [gone] at held
      cases held

theorem MessagesKept.executed (kept : MessagesKept world) (permits : LeasePermits deployment run op world)
    {answer : Except Error op.Answer} (executed : World.Executed run world op after answer) : MessagesKept after := by
  refine kept.stepped (kept.worded.executed executed) (passing_executed executed) ?_ (fun worker task listed => ?_)
    (fun worker found recorded => ?_) (fun owner found held => .inl (unacked_executed executed held))
  · refine executed.trace.imp id ?_
    rintro ⟨event, records, same⟩
    refine ⟨_, same, fun owner found delivered => ?_⟩
    cases delivered
    cases records
  · rcases tasks_executed executed listed with before | ⟨_, messages, concurrency, operation, member⟩
    · exact .inl ⟨task, before, rfl⟩
    · rcases (permits.publishing messages concurrency operation).2 task.message member with ⟨_, row, current, same⟩
      rcases current.recorded with ⟨recent, record, earlier, own, _, installed⟩
      have committed : .committed record ∈ world.own run := own ▸ List.mem_append_right _ List.mem_cons_self
      exact .inr ⟨row, ⟨run, record, own_mem.mp committed, installed⟩, same.symm⟩
  · rcases executed.trace with same | ⟨event, _, same⟩
    · exact .inl (same ▸ recorded)
    · rcases List.mem_cons.mp (same ▸ recorded) with new | before
      · cases new
      · exact .inl before

theorem MessagesKept.crash (kept : MessagesKept world) : MessagesKept (world.crash run) := by
  refine kept.stepped kept.worded.crash (passing_crash run world) (.inr ⟨_, World.crash_trace, ?_⟩)
    (fun worker task listed => .inl ⟨task, tasks_crash listed, rfl⟩) (fun worker found recorded => ?_)
    (fun owner found held => .inl ?_)
  · intro owner found same
    cases same
  · rw [World.crash_trace] at recorded
    rcases List.mem_cons.mp recorded with new | before
    · cases new
    · exact .inl before
  · exact @unacked_requeue (world.rollback run) run found owner held

theorem MessagesKept.occurred (kept : MessagesKept world) (occurred : World.Occurred world after) :
    MessagesKept after := by
  refine kept.stepped (kept.worded.occurred occurred) (passing_occurred occurred) ?_ (fun worker task listed => ?_)
    (fun worker found recorded => ?_) (fun owner found held => .inl ?_)
  · refine occurred.trace.imp id ?_
    rintro ⟨noted, observed, same⟩
    refine ⟨_, same, fun owner found delivered => ?_⟩
    cases delivered
  · rcases tasks_occurred occurred listed with ⟨old, before, same, _⟩
    exact .inl ⟨old, before, same⟩
  · refine (confirmed_occurred occurred recorded).imp id ?_
    rintro ⟨task, before, same, _⟩
    exact ⟨task, before, same⟩
  · rcases (occurred.untouched owner).unacked with same | gone
    · exact same.symm.trans held
    · rw [gone] at held
      cases held

end Properties
end Payments
