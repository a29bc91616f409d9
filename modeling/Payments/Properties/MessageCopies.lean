import Payments.Properties.CreationDiscipline
import Payments.Properties.OutboxDiscipline

namespace Payments
namespace Properties

open Concurrency Domain Infrastructure Application Payments.System

/-!
# Copies of a message

A message moves between the queues, the consumers and the wire, and only its
death entries change on the way.  `Passing` says what one step does to the
messages: nothing appears at the broker that was not published, and nothing
disappears except what a consumer acknowledges.
-/

variable {deployment : Deployment} {world after : World} {run : RunId} {op : Op} {id : UUID} {message : Message}
  {lost : Message -> Prop}

/-! ## Where messages are -/

/-- The message after any number of deaths. -/
def Copy (sent message : Message) : Prop :=
  Exists fun deaths => message = { sent with x_death := deaths }

theorem Copy.refl (message : Message) : Copy message message := ⟨message.x_death, rfl⟩

theorem Copy.trans {first second third : Message} (before : Copy first second) (later : Copy second third) :
    Copy first third := by
  rcases before with ⟨_, rfl⟩
  rcases later with ⟨deaths, rfl⟩
  exact ⟨deaths, rfl⟩

theorem Copy.body {sent : Message} (copy : Copy sent message) : message.body = sent.body := by
  rcases copy with ⟨deaths, rfl⟩
  rfl

theorem copy_dead_letter (queue : QueueName) (reason : String) (message : Message) :
    Copy message (message.dead_letter queue reason) :=
  ⟨_, rfl⟩

/-- In one of the queues, or delivered and not answered. -/
inductive InFlight (broker : Broker) (message : Message) : Prop where
  | main (listed : message ∈ broker.main)
  | retry (listed : message ∈ broker.retry)
  | delivered (run : RunId) (held : broker.unacked run = some message)

theorem InFlight.of_same {before after : Broker} (present : InFlight before message) (main : after.main = before.main)
    (retry : after.retry = before.retry) (unacked : after.unacked = before.unacked) : InFlight after message := by
  cases present with
  | main listed => exact .main (main ▸ listed)
  | retry listed => exact .retry (retry ▸ listed)
  | delivered run held => exact .delivered run (unacked ▸ held)

/-- In flight, or sent by a publish that has not been confirmed. -/
inductive Held (broker : Broker) (message : Message) : Prop where
  | flying (present : InFlight broker message)
  | wired (listed : message ∈ broker.wire)

/-- What one step does to the messages. -/
structure Passing (lost : Message -> Prop) (world after : World) : Prop where
  came : forall message, Held after.broker message ->
    (Exists fun sent => Held world.broker sent ∧ Copy sent message) ∨
      Exists fun worker => Exists fun task => task ∈ (world.publishing worker).tasks ∧
        Copy (Message.of_outbox task.message) message
  went : forall message, InFlight world.broker message -> lost message ∨
    Exists fun copy => Copy message copy ∧ InFlight after.broker copy
  dead : forall message, message ∈ world.broker.dlq -> message ∈ after.broker.dlq

theorem Passing.of_broker (same : after.broker = world.broker) : Passing lost world after where
  came := fun message held => .inl ⟨message, same ▸ held, .refl message⟩
  went := fun message present => .inr ⟨message, .refl message, same.symm ▸ present⟩
  dead := fun _ listed => same.symm ▸ listed

/-- Two changes of one step. -/
theorem Passing.trans {middle : World} (before : Passing (fun _ => False) world middle)
    (later : Passing lost middle after)
    (tasks : forall worker task, task ∈ (middle.publishing worker).tasks -> task ∈ (world.publishing worker).tasks)
    (unchanged : forall message copy, Copy message copy -> lost copy -> lost message) : Passing lost world after where
  came := by
    intro message held
    rcases later.came message held with ⟨sent, held', copy⟩ | ⟨worker, task, listed, copy⟩
    · rcases before.came sent held' with ⟨first, held'', copy'⟩ | ⟨worker, task, listed, copy'⟩
      · exact .inl ⟨first, held'', copy'.trans copy⟩
      · exact .inr ⟨worker, task, listed, copy'.trans copy⟩
    · exact .inr ⟨worker, task, tasks worker task listed, copy⟩
  went := by
    intro message present
    rcases before.went message present with gone | ⟨copy, copies, present'⟩
    · exact gone.elim
    · rcases later.went copy present' with gone | ⟨last, copies', present''⟩
      · exact .inl (unchanged message copy copies gone)
      · exact .inr ⟨last, copies.trans copies', present''⟩
  dead := fun message listed => later.dead message (before.dead message listed)

/-! ## One step of each kind -/

/-- A delivery takes a message from the main queue. -/
theorem passing_delivered (listed : message ∈ world.broker.main) (idle : world.broker.unacked run = none) :
    Passing lost world (deliver run message world) where
  came := by
    intro found held
    cases held with
    | wired waiting => exact .inl ⟨found, .wired waiting, .refl found⟩
    | flying present =>
        cases present with
        | main waiting => exact .inl ⟨found, .flying (.main (List.mem_of_mem_erase waiting)), .refl found⟩
        | retry waiting => exact .inl ⟨found, .flying (.retry waiting), .refl found⟩
        | delivered other held =>
            have held : Function.update world.broker.unacked run (some message) other = some found := held
            by_cases same : other = run
            · subst same
              rw [Function.update_self] at held
              cases held
              exact .inl ⟨message, .flying (.main listed), .refl message⟩
            · rw [Function.update_of_ne same] at held
              exact .inl ⟨found, .flying (.delivered other held), .refl found⟩
  went := by
    intro found present
    refine .inr ⟨found, .refl found, ?_⟩
    cases present with
    | main waiting =>
        by_cases same : found = message
        · subst same
          exact .delivered run (Function.update_self _ _ _)
        · exact .main ((List.mem_erase_of_ne same).mpr waiting)
    | retry waiting => exact .retry waiting
    | delivered other held =>
        have different : other ≠ run := by
          rintro rfl
          rw [idle] at held
          cases held
        exact .delivered other ((Function.update_of_ne different _ _).trans held)
  dead := fun _ listed => listed

/-- The broker moves one message of its own. -/
theorem passing_moved {old new : Message} (held : Held world.broker old) (copy : Copy old new)
    (main : forall message, message ∈ after.broker.main -> message = new ∨ message ∈ world.broker.main)
    (retry : forall message, message ∈ after.broker.retry -> message = new ∨ message ∈ world.broker.retry)
    (unacked : forall owner message, after.broker.unacked owner = some message ->
      world.broker.unacked owner = some message)
    (wire : forall message, message ∈ after.broker.wire -> message ∈ world.broker.wire)
    (went : forall message, InFlight world.broker message -> lost message ∨ message = old ∨ InFlight after.broker message)
    (arrived : lost old ∨ InFlight after.broker new) (dead : forall message, message ∈ world.broker.dlq ->
      message ∈ after.broker.dlq) : Passing lost world after where
  came := by
    intro message present
    have moved : message = new -> Exists fun sent => Held world.broker sent ∧ Copy sent message := by
      rintro rfl
      exact ⟨old, held, copy⟩
    refine .inl ?_
    cases present with
    | wired listed => exact ⟨message, .wired (wire message listed), .refl message⟩
    | flying present =>
        cases present with
        | main listed =>
            exact (main message listed).elim moved (fun before => ⟨message, .flying (.main before), .refl message⟩)
        | retry listed =>
            exact (retry message listed).elim moved (fun before => ⟨message, .flying (.retry before), .refl message⟩)
        | delivered owner taken => exact ⟨message, .flying (.delivered owner (unacked owner message taken)), .refl message⟩
  went := by
    intro message present
    rcases went message present with gone | rfl | stays
    · exact .inl gone
    · exact arrived.imp id (fun present => ⟨new, copy, present⟩)
    · exact .inr ⟨message, .refl message, stays⟩
  dead := dead

/-- Taking one message from its run. -/
theorem unacked_removed {unacked : RunId -> Option Message} {found : Message} (taken : unacked run = some found)
    (owner : RunId) (message : Message) :
    (Function.update unacked run none owner = some message -> unacked owner = some message) ∧
      (unacked owner = some message -> message = found ∨ Function.update unacked run none owner = some message) := by
  by_cases mine : owner = run
  · subst mine
    rw [Function.update_self, taken]
    refine ⟨fun impossible => ?_, fun held => .inl (Option.some.inj held).symm⟩
    cases impossible
  · rw [Function.update_of_ne mine]
    exact ⟨id, .inr⟩

theorem unacked_requeue {owner : RunId} (held : (world.requeue run).broker.unacked owner = some message) :
    world.broker.unacked owner = some message := by
  unfold World.requeue at held
  split at held
  · exact held
  · next found taken => exact (unacked_removed taken owner message).1 held

/-- Taking a message back from a run that has not answered it. -/
theorem passing_requeue (run : RunId) (world : World) : Passing lost world (world.requeue run) := by
  unfold World.requeue
  split
  · exact .of_broker rfl
  · next found taken =>
      refine passing_moved (.flying (.delivered run taken)) (.refl found) (fun _ => List.mem_cons.mp) (fun _ => .inr)
        (fun owner message => (unacked_removed taken owner message).1) (fun _ => id) (fun message present => .inr ?_)
        (.inr (.main List.mem_cons_self)) (fun _ => id)
      cases present with
      | main listed => exact .inr (.main (List.mem_cons_of_mem _ listed))
      | retry listed => exact .inr (.retry listed)
      | delivered owner held => exact ((unacked_removed taken owner message).2 held).imp id (.delivered owner)

/-- Cancelled publishes may leave their messages on the wire. -/
theorem passing_abandon (run : RunId) (world : World) : Passing lost world (world.abandon_publishing run) where
  came := by
    intro message held
    cases held with
    | flying present => exact .inl ⟨message, .flying (present.of_same rfl rfl rfl), .refl message⟩
    | wired listed =>
        rcases List.mem_append.mp listed with new | before
        · rcases List.mem_map.mp new with ⟨task, sent, rfl⟩
          exact .inr ⟨run, task, List.mem_of_mem_filter sent, .refl _⟩
        · exact .inl ⟨message, .wired before, .refl message⟩
  went := fun message present => .inr ⟨message, .refl message, present.of_same rfl rfl rfl⟩
  dead := fun _ listed => listed

theorem passing_crash (run : RunId) (world : World) : Passing (fun _ => False) world (world.crash run) := by
  have rolled_back : Passing (fun _ => False) world (world.rollback run) := .of_broker rfl
  have requeued : Passing (fun _ => False) world ((world.rollback run).requeue run) :=
    rolled_back.trans (passing_requeue run (world.rollback run)) (fun _ _ => id) (fun _ _ _ => id)
  have abandoned := @passing_abandon (fun _ => False) run ((world.rollback run).requeue run)
  refine requeued.trans ⟨abandoned.came, abandoned.went, abandoned.dead⟩ (fun worker task listed => ?_) (fun _ _ _ => id)
  unfold World.requeue at listed
  split at listed <;> exact listed

/-- Only an acknowledgement takes a message away. -/
theorem passing_executed {answer : Except Error op.Answer} (executed : World.Executed run world op after answer) :
    Passing (fun message => op = .ack ∧ world.broker.unacked run = some message) world after := by
  cases executed with
  | publishes_abandoned => exact passing_abandon run world
  | dead_lettered copy answer known =>
      refine ⟨fun message held => .inl ⟨message, ?_, .refl message⟩,
        fun message present => .inr ⟨message, .refl message, present.of_same rfl rfl rfl⟩,
        fun message listed => List.mem_cons_of_mem _ listed⟩
      cases held with
      | wired listed => exact .wired listed
      | flying present => exact .flying (present.of_same rfl rfl rfl)
  | acked found taken answer known =>
      refine passing_moved (.flying (.delivered run taken)) (.refl found) (fun _ => .inr) (fun _ => .inr)
        (fun owner message => (unacked_removed taken owner message).1) (fun _ => id) (fun message present => ?_)
        (.inl ⟨rfl, taken⟩) (fun _ => id)
      cases present with
      | main listed => exact .inr (.inr (.main listed))
      | retry listed => exact .inr (.inr (.retry listed))
      | delivered owner held => exact .inr (((unacked_removed taken owner message).2 held).imp id (.delivered owner))
  | nacked found taken answer known =>
      refine passing_moved (.flying (.delivered run taken)) (copy_dead_letter .main "rejected" found) (fun _ => .inr)
        (fun _ => List.mem_cons.mp) (fun owner message => (unacked_removed taken owner message).1) (fun _ => id)
        (fun message present => ?_) (.inr (.retry List.mem_cons_self)) (fun _ => id)
      cases present with
      | main listed => exact .inr (.inr (.main listed))
      | retry listed => exact .inr (.inr (.retry (List.mem_cons_of_mem _ listed)))
      | delivered owner held => exact .inr (((unacked_removed taken owner message).2 held).imp id (.delivered owner))
  | _ => exact .of_broker rfl

/-- The environment moves messages and lets published ones arrive. -/
theorem passing_occurred (occurred : World.Occurred world after) : Passing (fun _ => False) world after := by
  cases occurred with
  | expired index message found =>
      have listed := List.mem_of_getElem? found
      refine passing_moved (.flying (.retry listed)) (copy_dead_letter .retry "expired" message)
        (fun _ => List.mem_cons.mp) (fun _ before => .inr (List.mem_of_mem_eraseIdx before)) (fun _ _ => id) (fun _ => id)
        (fun other present => .inr ?_) (.inr (.main List.mem_cons_self)) (fun _ => id)
      cases present with
      | main listed => exact .inr (.main (List.mem_cons_of_mem _ listed))
      | retry listed =>
          rcases List.getElem?_of_mem listed with ⟨place, there⟩
          by_cases same : place = index
          · subst same
            exact .inl (Option.some.inj (there.symm.trans found))
          · exact .inr (.retry (List.mem_eraseIdx_iff_getElem?.mpr ⟨place, same, there⟩))
      | delivered owner held => exact .inr (.delivered owner held)
  | requeued owner message found =>
      have requeue := @passing_requeue (fun _ => False) owner world
      unfold World.requeue at requeue
      rw [found] at requeue
      exact requeue
  | landed index message found =>
      have listed := List.mem_of_getElem? found
      refine passing_moved (.wired listed) (.refl message) (fun _ => List.mem_cons.mp) (fun _ => .inr)
        (fun _ _ => id) (fun _ => List.mem_of_mem_eraseIdx) (fun other present => .inr (.inr ?_))
        (.inr (.main List.mem_cons_self)) (fun _ => id)
      cases present with
      | main listed => exact .main (List.mem_cons_of_mem _ listed)
      | retry listed => exact .retry listed
      | delivered owner held => exact .delivered owner held
  | publish_landed owner index message found =>
      have listed := List.mem_of_getElem? found
      refine ⟨fun other held => ?_, fun other present => .inr ⟨other, .refl other, ?_⟩, fun _ => id⟩
      · cases held with
        | wired listed => exact .inl ⟨other, .wired listed, .refl other⟩
        | flying present =>
            cases present with
            | main arrived =>
                rcases List.mem_cons.mp arrived with rfl | before
                · exact .inr ⟨owner, _, listed, .refl _⟩
                · exact .inl ⟨other, .flying (.main before), .refl other⟩
            | retry listed => exact .inl ⟨other, .flying (.retry listed), .refl other⟩
            | delivered worker held => exact .inl ⟨other, .flying (.delivered worker held), .refl other⟩
      · cases present with
        | main listed => exact .main (List.mem_cons_of_mem _ listed)
        | retry listed => exact .retry listed
        | delivered worker held => exact .delivered worker held
  | publish_failed owner index message landed found =>
      refine ⟨fun other held => ?_, fun other present => .inr ⟨other, .refl other, present.of_same rfl rfl rfl⟩,
        fun _ => id⟩
      cases held with
      | flying present => exact .inl ⟨other, .flying (present.of_same rfl rfl rfl), .refl other⟩
      | wired waiting =>
          have waiting : other ∈ (if landed then world.broker.wire else Message.of_outbox message :: world.broker.wire) :=
            waiting
          split at waiting
          · exact .inl ⟨other, .wired waiting, .refl other⟩
          · rcases List.mem_cons.mp waiting with rfl | before
            · exact .inr ⟨owner, _, List.mem_of_getElem? found, .refl _⟩
            · exact .inl ⟨other, .wired before, .refl other⟩
  | _ => exact .of_broker rfl

end Properties
end Payments
