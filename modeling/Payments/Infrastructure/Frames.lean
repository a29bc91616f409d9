import Payments.Infrastructure.Changes

namespace Payments
namespace Infrastructure

open Concurrency Domain

/-!
# What a run has to itself

The rows a run has locked, its session, its own events and its tasks are out of
reach of every other run.  The environment lets its tasks make progress and may
take back its broker message, and does nothing else to it.
-/

/-- The task is the same and, once it has finished, stays as it is. -/
structure PublishTask.Advances (before after : PublishTask) : Prop where
  message : after.message = before.message
  finished : forall outcome, before.state = .finished outcome -> after = before

structure SendTask.Advances (before after : SendTask) : Prop where
  delivery : after.delivery = before.delivery
  request : after.request = before.request
  finished : forall outcome, before.state = .finished outcome -> after = before

theorem PublishTask.Advances.refl (task : PublishTask) : task.Advances task := ⟨rfl, fun _ _ => rfl⟩

theorem SendTask.Advances.refl (task : SendTask) : task.Advances task := ⟨rfl, rfl, fun _ _ => rfl⟩

theorem PublishTask.Advances.trans {first second third : PublishTask} (before : first.Advances second)
    (after : second.Advances third) : first.Advances third where
  message := after.message.trans before.message
  finished := by
    intro outcome ended
    have same := before.finished outcome ended
    exact (after.finished outcome (same ▸ ended)).trans same

theorem SendTask.Advances.trans {first second third : SendTask} (before : first.Advances second)
    (after : second.Advances third) : first.Advances third where
  delivery := after.delivery.trans before.delivery
  request := after.request.trans before.request
  finished := by
    intro outcome ended
    have same := before.finished outcome ended
    exact (after.finished outcome (same ▸ ended)).trans same

theorem PublishTask.advances_of_unfinished {before after : PublishTask}
    (message : after.message = before.message) (unfinished : before.state.outcome = none) :
    before.Advances after := by
  refine ⟨message, fun outcome finished => ?_⟩
  rw [finished] at unfinished
  cases unfinished

theorem SendTask.advances_of_unfinished {before after : SendTask}
    (delivery : after.delivery = before.delivery) (request : after.request = before.request)
    (unfinished : before.state.outcome = none) : before.Advances after := by
  refine ⟨delivery, request, fun outcome finished => ?_⟩
  rw [finished] at unfinished
  cases unfinished

/-- The same gather with every task advanced. -/
structure Gather.Advances {Task : Type} (advances : Task -> Task -> Prop) (before after : Gather Task) :
    Prop where
  concurrency : after.concurrency = before.concurrency
  tasks : List.Forall₂ advances before.tasks after.tasks

theorem Gather.Advances.refl {Task : Type} {advances : Task -> Task -> Prop}
    (reflexive : forall task, advances task task) (gather : Gather Task) : gather.Advances advances gather :=
  ⟨rfl, List.forall₂_same.mpr (fun task _ => reflexive task)⟩

theorem Gather.Advances.trans {Task : Type} {advances : Task -> Task -> Prop}
    (transitive : forall first second third, advances first second -> advances second third ->
      advances first third)
    {first second third : Gather Task} (before : first.Advances advances second)
    (after : second.Advances advances third) : first.Advances advances third where
  concurrency := after.concurrency.trans before.concurrency
  tasks := by
    have both : forall {left middle right : List Task}, List.Forall₂ advances left middle ->
        List.Forall₂ advances middle right -> List.Forall₂ advances left right := by
      intro left middle right earlier
      induction earlier generalizing right with
      | nil =>
          intro later
          cases later
          exact .nil
      | cons head _ inductionHypothesis =>
          intro later
          cases later with
          | cons head' tail' => exact .cons (transitive _ _ _ head head') (inductionHypothesis tail')
    exact both before.tasks after.tasks

/-- Advancing one task advances the gather. -/
theorem Gather.advances_set {Task : Type} {advances : Task -> Task -> Prop}
    (reflexive : forall task, advances task task) {gather : Gather Task} {index : Nat} {old new : Task}
    (found : gather.tasks[index]? = some old) (advanced : advances old new) :
    gather.Advances advances { gather with tasks := gather.tasks.set index new } where
  concurrency := rfl
  tasks := by
    have general : forall (tasks : List Task) (index : Nat), tasks[index]? = some old ->
        List.Forall₂ advances tasks (tasks.set index new) := by
      intro tasks
      induction tasks with
      | nil =>
          intro index found
          cases found
      | cons head tail inductionHypothesis =>
          intro index found
          cases index with
          | zero =>
              cases found
              exact .cons advanced (List.forall₂_same.mpr (fun task _ => reflexive task))
          | succ index => exact .cons (reflexive head) (inductionHypothesis index found)
    exact general gather.tasks index found

namespace World

structure Untouched (run : RunId) (before after : World) : Prop where
  tables : forall name, (before.tables name).Frame run (after.tables name)
  refusing : after.refusing run = before.refusing run
  own : after.own run = before.own run
  publishing : (before.publishing run).Advances PublishTask.Advances (after.publishing run)
  sending : (before.sending run).Advances SendTask.Advances (after.sending run)
  unacked : after.broker.unacked run = before.broker.unacked run ∨ after.broker.unacked run = none

theorem Untouched.refl (run : RunId) (world : World) : Untouched run world world where
  tables := fun _ => Table.Frame.refl run _
  refusing := rfl
  own := rfl
  publishing := Gather.Advances.refl PublishTask.Advances.refl _
  sending := Gather.Advances.refl SendTask.Advances.refl _
  unacked := .inl rfl

theorem Untouched.trans {run : RunId} {first second third : World} (before : Untouched run first second)
    (after : Untouched run second third) : Untouched run first third where
  tables := fun name => (before.tables name).trans (after.tables name)
  refusing := after.refusing.trans before.refusing
  own := after.own.trans before.own
  publishing := @Gather.Advances.trans PublishTask PublishTask.Advances (fun _ _ _ => .trans) _ _ _
    before.publishing after.publishing
  sending := @Gather.Advances.trans SendTask SendTask.Advances (fun _ _ _ => .trans) _ _ _
    before.sending after.sending
  unacked := by
    rcases after.unacked with same | gone
    · rcases before.unacked with same' | gone'
      · exact .inl (same.trans same')
      · exact .inr (same.trans gone')
    · exact .inr gone

/-! ## The parts of a step -/

variable {run other : RunId} {world after : World}

theorem own_note (actor : Actor) (event : Event) :
    (world.note actor event).own run = if actor = .run run then event :: world.own run else world.own run := by
  by_cases same : actor = .run run <;> simp [own, note, same]

@[simp] theorem own_note_self (event : Event) :
    (world.note (.run run) event).own run = event :: world.own run := by
  rw [own_note, if_pos rfl]

theorem own_updated {name : TableName} {statement : Update name} {rows : List (Row name)}
    (executed : Executed run world (.update name statement) after (.ok rows)) :
    after.own run = .updated name statement rows :: world.own run := by
  cases executed with
  | updated => exact own_note_self _

theorem own_note_of_ne {actor : Actor} (event : Event) (different : actor ≠ .run run) :
    (world.note actor event).own run = world.own run := by
  rw [own_note, if_neg different]

@[simp] theorem own_commit : (world.commit run).own run = .committed (world.record run) :: world.own run :=
  own_note_self (.committed (world.record run))

@[simp] theorem own_rollback : (world.rollback run).own run = .rolled_back :: world.own run :=
  own_note_self .rolled_back

@[simp] theorem own_crash : (world.crash run).own run = .rolled_back :: world.own run := by
  simp [own, crash_trace]

@[simp] theorem own_dead_letter {message : Message} :
    (world.dead_letter run message).own run = .dead_lettered message :: world.own run :=
  own_note_self (.dead_lettered message)

@[simp] theorem own_acknowledge {message : Message} :
    (world.acknowledge run message).own run = .acked message :: world.own run :=
  own_note_self (.acked message)

@[simp] theorem own_reject {message : Message} : (world.reject run message).own run = .nacked message :: world.own run :=
  own_note_self (.nacked message)

/-- An operation appends at most one event to the events of its run. -/
theorem Executed.own {op : Op} {answer : Except Error op.Answer}
    (executed : Executed run world op after answer) :
    after.own run = world.own run ∨
      Exists fun event => Records run world op event ∧ after.own run = event :: world.own run := by
  rcases executed.trace with same | ⟨event, records, same⟩
  · refine .inl ?_
    rw [World.own, World.own, same]
  · refine .inr ⟨event, records, ?_⟩
    rw [World.own, World.own, same]
    simp

/-- A change of parts that do not belong to the run. -/
theorem untouched_of_eq {before after : World}
    (tables : forall name, (before.tables name).Frame run (after.tables name))
    (refusing : after.refusing run = before.refusing run) (own : after.own run = before.own run)
    (publishing : after.publishing run = before.publishing run)
    (sending : after.sending run = before.sending run)
    (unacked : after.broker.unacked run = before.broker.unacked run) : Untouched run before after where
  tables := tables
  refusing := refusing
  own := own
  publishing := publishing ▸ Gather.Advances.refl PublishTask.Advances.refl _
  sending := sending ▸ Gather.Advances.refl SendTask.Advances.refl _
  unacked := .inl unacked

theorem untouched_note {actor : Actor} {event : Event} (different : actor ≠ .run other) :
    Untouched other world (world.note actor event) :=
  untouched_of_eq (fun _ => Table.Frame.refl other _) rfl (own_note_of_ne event different) rfl rfl rfl

theorem actor_ne (different : other ≠ run) : Actor.run run ≠ .run other :=
  fun same => different (Actor.run.inj same).symm

theorem untouched_set_table {name : TableName} {table : Table UUID (Row name) RunId}
    (kept : (world.tables name).Frame other table) : Untouched other world (world.set_table name table) := by
  refine untouched_of_eq (fun found => ?_) rfl rfl rfl rfl rfl
  by_cases same : found = name
  · subst same
    rwa [set_table_self]
  · rw [set_table_of_ne table same]
    exact Table.Frame.refl other _

theorem untouched_commit (different : other ≠ run) : Untouched other world (world.commit run) :=
  untouched_of_eq (fun _ => Table.frame_commit different) rfl
    (own_note_of_ne _ (actor_ne different)) rfl rfl rfl

theorem untouched_release (different : other ≠ run) : Untouched other world (world.release run) :=
  untouched_of_eq (fun _ => Table.frame_rollback different) (Function.update_of_ne different _ _)
    rfl rfl rfl rfl

theorem untouched_rollback (different : other ≠ run) : Untouched other world (world.rollback run) :=
  (untouched_release different).trans (untouched_note (actor_ne different))

theorem untouched_set_broker {broker : Broker}
    (kept : broker.unacked other = world.broker.unacked other ∨ broker.unacked other = none) :
    Untouched other world (world.set_broker broker) :=
  { Untouched.refl other world with unacked := kept }

theorem untouched_set_publishing {gather : Gather PublishTask} (different : other ≠ run) :
    Untouched other world (world.set_publishing run gather) :=
  untouched_of_eq (fun _ => Table.Frame.refl other _) rfl rfl (Function.update_of_ne different _ _) rfl rfl

theorem untouched_set_sending {gather : Gather SendTask} (different : other ≠ run) :
    Untouched other world (world.set_sending run gather) :=
  untouched_of_eq (fun _ => Table.Frame.refl other _) rfl rfl rfl (Function.update_of_ne different _ _) rfl

theorem untouched_abandon (different : other ≠ run) :
    Untouched other world (world.abandon_publishing run) :=
  (untouched_set_publishing different).trans (untouched_set_broker (.inl rfl))

theorem untouched_requeue (run : RunId) : Untouched other world (world.requeue run) := by
  unfold requeue
  split
  · exact Untouched.refl other world
  · refine untouched_set_broker ?_
    by_cases same : other = run
    · subst same
      exact .inr (Function.update_self _ _ _)
    · exact .inl (Function.update_of_ne same _ _)

/-! ## Every step leaves the other runs alone -/

theorem not_heldByOther_of_unlisted {name : TableName} {key : UUID}
    (unlisted : key ∉ (world.tables name).keys) :
    ((world.tables name).cell key).heldByOther run = false := by
  rw [(world.tables name).complete key unlisted]
  rfl

/-- An operation of one run leaves what the other runs have alone. -/
theorem Executed.untouched {op : Op} {answer : Except Error op.Answer}
    (executed : Executed run world op after answer) (different : other ≠ run) :
    Untouched other world after := by
  cases executed with
  | now reading => exact untouched_note (actor_ne different)
  | uuid7 id fresh => exact untouched_of_eq (fun _ => Table.Frame.refl other _) rfl rfl rfl rfl rfl
  | locked name query limit accepting => exact untouched_set_table (Table.frame_updateClaimable different)
  | updated name statement time table rows changed accepting storable =>
      exact (untouched_set_table (Table.frame_of_touched different (Table.update_touched changed))).trans
        (untouched_note (actor_ne different))
  | claimed name query limit statement time table rows changed accepting =>
      refine Untouched.trans (untouched_set_table ?_) (untouched_note (actor_ne different))
      rw [← (Prod.mk.inj changed).1]
      exact Table.frame_updateClaimable different
  | deleted cutoff table changed accepting =>
      exact (untouched_set_table (Table.frame_of_touched different (Table.delete_touched changed))).trans
        (untouched_note (actor_ne different))
  | added name row storable unlisted =>
      exact untouched_set_table (Table.frame_put different (not_heldByOther_of_unlisted unlisted))
  | add_refused name row =>
      exact untouched_of_eq (fun _ => Table.Frame.refl other _) (Function.update_of_ne different _ _)
        rfl rfl rfl rfl
  | inserted row storable unseen uncontended unlisted =>
      exact untouched_set_table (Table.frame_put different (not_heldByOther_of_unlisted unlisted))
  | committed answer known accepting => exact untouched_commit different
  | rolled_back answer known => exact untouched_rollback different
  | closed answer known => exact untouched_release different
  | charge_called payment_id amount key => exact untouched_note (actor_ne different)
  | charge_returned payment_id result => exact untouched_note (actor_ne different)
  | charge_raised payment_id error known => exact untouched_note (actor_ne different)
  | publishes_started messages concurrency => exact untouched_set_publishing different
  | publishes_abandoned => exact untouched_abandon different
  | published results ended => exact untouched_set_publishing different
  | sends_started requests concurrency => exact untouched_set_sending different
  | sends_abandoned => exact untouched_set_sending different
  | sent results quiet ended => exact (untouched_set_sending different).trans (untouched_note (actor_ne different))
  | dead_lettered message answer known =>
      refine Untouched.trans ?_ (untouched_note (actor_ne different))
      exact untouched_set_broker (.inl rfl)
  | acked message delivered answer known =>
      exact (untouched_set_broker (.inl (Function.update_of_ne different _ _))).trans
        (untouched_note (actor_ne different))
  | nacked message delivered answer known =>
      exact (untouched_set_broker (.inl (Function.update_of_ne different _ _))).trans
        (untouched_note (actor_ne different))
  | _ => exact Untouched.refl other world

theorem crash_untouched (different : other ≠ run) : Untouched other world (world.crash run) :=
  (((untouched_rollback different).trans (untouched_requeue run)).trans
    (untouched_abandon different)).trans (untouched_set_sending different)

theorem untouched_set_publish_task {index : Nat} {old new : PublishTask}
    (found : (world.publishing run).tasks[index]? = some old) (advances : old.Advances new) :
    Untouched other world (world.set_publish_task run index new) := by
  by_cases same : other = run
  · subst same
    refine { Untouched.refl other world with publishing := ?_ }
    have updated : (world.set_publish_task other index new).publishing other =
        { world.publishing other with tasks := (world.publishing other).tasks.set index new } :=
      Function.update_self _ _ _
    rw [updated]
    exact Gather.advances_set PublishTask.Advances.refl found advances
  · exact untouched_set_publishing same

theorem untouched_set_send_task {index : Nat} {old new : SendTask}
    (found : (world.sending run).tasks[index]? = some old) (advances : old.Advances new) :
    Untouched other world (world.set_send_task run index new) := by
  by_cases same : other = run
  · subst same
    refine { Untouched.refl other world with sending := ?_ }
    have updated : (world.set_send_task other index new).sending other =
        { world.sending other with tasks := (world.sending other).tasks.set index new } :=
      Function.update_self _ _ _
    rw [updated]
    exact Gather.advances_set SendTask.Advances.refl found advances
  · exact untouched_set_sending same

theorem environment_ne (other : RunId) : Actor.environment ≠ .run other := by
  intro same
  cases same

/-- An event of the environment lets the tasks of a run advance and does
nothing else to it. -/
theorem Occurred.untouched (occurred : Occurred world after) (run : RunId) : Untouched run world after := by
  cases occurred with
  | idle => exact Untouched.refl run world
  | ticked time => exact untouched_of_eq (fun _ => Table.Frame.refl run _) rfl rfl rfl rfl rfl
  | expired index message found => exact untouched_set_broker (.inl rfl)
  | requeued owner message found =>
      refine untouched_set_broker ?_
      by_cases same : run = owner
      · subst same
        exact .inr (Function.update_self _ _ _)
      · exact .inl (Function.update_of_ne same _ _)
  | landed index message found => exact untouched_set_broker (.inl rfl)
  | publish_started owner index message landed found =>
      refine Untouched.trans ?_ (untouched_note (environment_ne run))
      exact untouched_set_publish_task found (PublishTask.advances_of_unfinished rfl rfl)
  | publish_landed owner index message found =>
      refine Untouched.trans ?_ (untouched_set_broker (.inl rfl))
      exact untouched_set_publish_task found (PublishTask.advances_of_unfinished rfl rfl)
  | publish_confirmed owner index message found =>
      refine Untouched.trans ?_ (untouched_note (environment_ne run))
      exact untouched_set_publish_task found (PublishTask.advances_of_unfinished rfl rfl)
  | publish_failed owner index message landed found =>
      refine Untouched.trans ?_ (untouched_note (environment_ne run))
      refine Untouched.trans ?_ (untouched_set_broker (.inl rfl))
      exact untouched_set_publish_task found (PublishTask.advances_of_unfinished rfl rfl)
  | send_started owner index delivery request found =>
      refine Untouched.trans ?_ (untouched_note (environment_ne run))
      exact untouched_set_send_task found (SendTask.advances_of_unfinished rfl rfl rfl)
  | send_finished owner index delivery request outcome found =>
      refine Untouched.trans ?_ (untouched_note (environment_ne run))
      exact untouched_set_send_task found (SendTask.advances_of_unfinished rfl rfl rfl)

end World
end Infrastructure
end Payments
