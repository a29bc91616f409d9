import Payments.Properties.MessageOrigins
import Payments.Properties.OutboxCycles
import Payments.Properties.PaymentCreations

namespace Payments
namespace Properties

open Concurrency Domain Infrastructure Application Prog Payments.System

/-!
# From the request to the final status

The row of a committed payment's message stays in the outbox until a publish of
it has been confirmed or it has been moved to dead.  The broker holds a
confirmed message until a consumer acknowledges it, and a consumer acknowledges
it when the payment has ended or a copy is in the dead letter queue.
-/

variable {deployment : Deployment} {world after : World} {run worker owner : RunId} {op : Op} {id : UUID}
  {sent message : Message} {lost : Message -> Prop} {row : OutboxMessageModel}

/-! ## Messages that the broker has taken over -/

/-- Nothing is left to be done for the message. -/
inductive Disposed (sent : Message) (world : World) : Prop where
  | dead_lettered (message : Message) (copy : Copy sent message)
      (listed : PaymentConsumerHandler.dlq_copy message ∈ world.broker.dlq)
  | ended (key : UUID) (payment : PaymentModel) (concerns : Concerns key sent)
      (found : (world.cell .payments key).committed = some payment) (final : Final payment)

/-- What has become of a message that has arrived at the broker. -/
inductive Reached (sent : Message) (world : World) : Prop where
  | in_flight (message : Message) (copy : Copy sent message) (present : InFlight world.broker message)
  | disposed (disposed : Disposed sent world)

theorem Disposed.step (disposed : Disposed sent world) (passing : Passing lost world after)
    (evolves : PaymentsEvolve world after) : Disposed sent after := by
  cases disposed with
  | dead_lettered message copy listed => exact .dead_lettered message copy (passing.dead _ listed)
  | ended key payment concerns found final =>
      rcases evolves.grows key payment found with ⟨later, found', grows⟩
      cases grows.of_final final
      exact .ended key payment concerns found' final

/-- A step keeps hold of the message, or it takes away a copy that is no longer needed. -/
theorem Reached.step (reached : Reached sent world) (passing : Passing lost world after)
    (evolves : PaymentsEvolve world after)
    (taken : forall message, Copy sent message -> lost message -> Disposed sent world) : Reached sent after := by
  cases reached with
  | in_flight message copy present =>
      rcases passing.went message present with gone | ⟨copied, copies, present'⟩
      · exact .disposed ((taken message copy gone).step passing evolves)
      · exact .in_flight copied (copy.trans copies) present'
  | disposed disposed => exact .disposed (disposed.step passing evolves)

/-! ## Rows that leave the outbox -/

/-- A publish of the message has been confirmed. -/
def Confirmed (trace : List Entry) (id : UUID) : Prop :=
  Exists fun worker => Exists fun message : OutboxMessage =>
    (.environment, .publish_confirmed worker message) ∈ trace ∧ message.id = id

/-- The entry ends a transaction of the run. -/
inductive Ending (run : RunId) : Entry -> Prop where
  | committed (record : Record) : Ending run (.run run, .committed record)
  | rolled_back : Ending run (.run run, .rolled_back)

/-- The open transaction of the run has purged the row. -/
def Purging (run : RunId) (row : OutboxMessageModel) (trace : List Entry) : Prop :=
  Exists fun recent => Exists fun cutoff => Exists fun rows => Exists fun earlier =>
    trace = recent ++ (.run run, .purged cutoff rows) :: earlier ∧ row ∈ rows ∧
      forall entry, entry ∈ recent -> ¬ Ending run entry

/-- A committed transaction has left the row dead, or has purged it when it was dead. -/
inductive MovedToDead (id : UUID) (trace : List Entry) : Prop where
  | installed (row : OutboxMessageModel) (posted : Posted trace id row) (dead : row.status = .DEAD)
  | purged (run : RunId) (record : Record) (row : OutboxMessageModel) (recent earlier : List Entry)
      (split : trace = recent ++ (.run run, .committed record) :: earlier)
      (deleted : (id, none) ∈ record .outbox_messages) (purging : Purging run row earlier) (own : row.id = id)
      (dead : row.status = .DEAD)

theorem Confirmed.mono {trace later : List Entry} (confirmed : Confirmed trace id) (grown : trace <:+ later) :
    Confirmed later id := by
  rcases confirmed with ⟨worker, message, recorded, own⟩
  exact ⟨worker, message, grown.subset recorded, own⟩

theorem MovedToDead.mono {trace later : List Entry} (moved : MovedToDead id trace) (grown : trace <:+ later) :
    MovedToDead id later := by
  cases moved with
  | installed row posted dead => exact .installed row (posted.mono grown) dead
  | purged run record row recent earlier split deleted purging own dead =>
      rcases grown with ⟨new, rfl⟩
      refine .purged run record row (new ++ recent) earlier ?_ deleted purging own dead
      rw [split, List.append_assoc]

theorem Purging.cons {trace : List Entry} {entry : Entry} (purging : Purging run row trace)
    (continues : ¬ Ending run entry) : Purging run row (entry :: trace) := by
  rcases purging with ⟨recent, cutoff, rows, earlier, rfl, listed, open_since⟩
  refine ⟨entry :: recent, cutoff, rows, earlier, rfl, listed, fun found member => ?_⟩
  rcases List.mem_cons.mp member with rfl | before
  · exact continues
  · exact open_since found before

/-- What has become of an outbox row that was committed. -/
inductive Forwarded (id : UUID) (world : World) : Prop where
  | waiting (row : OutboxMessageModel) (found : (world.cell .outbox_messages id).committed = some row)
      (status : row.status = .PENDING ∨ row.status = .PROCESSING)
  | confirmed (confirmed : Confirmed world.trace id)
  | dead (moved : MovedToDead id world.trace)

theorem Forwarded.kept (forwarded : Forwarded id world) (grown : world.trace <:+ after.trace)
    (same : (after.cell .outbox_messages id).committed = (world.cell .outbox_messages id).committed) :
    Forwarded id after := by
  cases forwarded with
  | waiting row found status => exact .waiting row (same.trans found) status
  | confirmed confirmed => exact .confirmed (confirmed.mono grown)
  | dead moved => exact .dead (moved.mono grown)

/-! ## The invariant -/

/-- A transaction that deletes a row has found it processed or dead. -/
def Removing (run : RunId) (id : UUID) (world : World) : Prop :=
  Exists fun row => Purging run row world.trace ∧ row.id = id ∧ (Confirmed world.trace id ∨ row.status = .DEAD)

structure HandoverKept (world : World) : Prop where
  landed : forall worker task, task ∈ (world.publishing worker).tasks -> task.landed = true ->
    Reached (Message.of_outbox task.message) world
  accepted : forall worker message, (.environment, .publish_confirmed worker message) ∈ world.trace ->
    Reached (Message.of_outbox message) world
  copied : forall run message, (.run run, .dead_lettered message) ∈ world.trace -> message ∈ world.broker.dlq
  forwarded : forall id row, Posted world.trace id row -> Forwarded id world
  removing : forall id run, (world.cell .outbox_messages id).lock = some (run, none) -> Removing run id world

theorem handover_kept_initially : HandoverKept World.initial where
  landed := fun _ _ listed => by cases listed
  accepted := fun _ _ recorded => by cases recorded
  copied := fun _ _ recorded => by cases recorded
  forwarded := by
    rintro id row ⟨run, record, recorded, _⟩
    cases recorded
  removing := fun _ _ locked => by cases locked

/-- The transaction stays open. -/
theorem Removing.recorded (removing : Removing run id world)
    (recorded : after.trace = world.trace ∨
      Exists fun entry => after.trace = entry :: world.trace ∧ ¬ Ending run entry) : Removing run id after := by
  rcases removing with ⟨row, purging, own, settled⟩
  rcases recorded with same | ⟨entry, same, continues⟩
  · exact ⟨row, same ▸ purging, own, same ▸ settled⟩
  · refine ⟨row, ?_, own, settled.imp (fun confirmed => confirmed.mono (same ▸ List.suffix_cons _ _)) (fun dead => dead)⟩
    rw [same]
    exact purging.cons continues

/-- A step of others leaves the transaction open. -/
theorem HandoverKept.removing_untouched (kept : HandoverKept world) (untouched : World.Untouched owner world after)
    (recorded : after.trace = world.trace ∨
      Exists fun entry => after.trace = entry :: world.trace ∧ ¬ Ending owner entry)
    (locked : (after.cell .outbox_messages id).lock = some (owner, none)) : Removing owner id after := by
  have same := lock_untouched untouched ⟨none, locked⟩
  rw [same] at locked
  exact Removing.recorded (kept.removing id owner locked) recorded

theorem not_ending_of_actor {actor : Actor} (event : Event) (different : actor ≠ .run run) :
    ¬ Ending run (actor, event) := by
  intro ending
  cases ending <;> exact different rfl

/-- A step without a commit. -/
theorem HandoverKept.stepped (kept : HandoverKept world) {new : List Entry} (trace : after.trace = new ++ world.trace)
    (uncommitted : forall run record, (.run run, .committed record) ∉ new) (unmoved : Unmoved world after)
    (reaches : forall sent, Reached sent world -> Reached sent after)
    (landed : forall worker task, task ∈ (after.publishing worker).tasks -> task.landed = true ->
      Reached (Message.of_outbox task.message) after)
    (accepted : forall worker message, (.environment, .publish_confirmed worker message) ∈ new ->
      Reached (Message.of_outbox message) after)
    (copied : forall run message, (.run run, .dead_lettered message) ∈ after.trace -> message ∈ after.broker.dlq)
    (removing : forall id run, (after.cell .outbox_messages id).lock = some (run, none) -> Removing run id after) :
    HandoverKept after where
  landed := landed
  accepted := by
    intro worker message recorded
    rw [trace, List.mem_append] at recorded
    exact recorded.elim (accepted worker message) (fun before => reaches _ (kept.accepted worker message before))
  copied := copied
  forwarded := fun id row posted => (kept.forwarded id row ((posted_moved trace uncommitted).mp posted)).kept
    (trace ▸ List.suffix_append new world.trace) (unmoved .outbox_messages id)
  removing := removing

/-! ## Operations -/

/-- A consumer acknowledges its message when it has published a copy of it, or when the payment has ended. -/
theorem MessagesKept.answerable (messages : MessagesKept world) (answerable : Answerable run message world)
    (held : world.broker.unacked run = some message) :
    .dead_lettered (PaymentConsumerHandler.dlq_copy message) ∈ world.own run ∨
      Exists fun key => Exists fun payment => Concerns key message ∧
        (world.cell .payments key).committed = some payment ∧ Final payment := by
  cases answerable with
  | dead_lettered copied => exact .inl copied
  | foreign event_type aggregate_id correlation_id body different =>
      rcases List.append_of_mem (messages.handed run message held) with ⟨later, earlier, split⟩
      rcases messages.acquainted.at_split split run message rfl with ⟨key, ⟨_, body'⟩, _⟩
      rw [body] at body'
      cases body'
      exact absurd rfl different
  | ended key correlation_id payment body found final => exact .inr ⟨key, payment, ⟨correlation_id, body⟩, found, final⟩
  | missing key correlation_id later earlier body delivered unmentioned =>
      rcases messages.acquainted.at_split delivered run message rfl with ⟨key', ⟨_, body'⟩, mentioned⟩
      rw [body] at body'
      cases body'
      exact absurd unmentioned mentioned

/-- A message is acknowledged when nothing is left to be done for it. -/
theorem HandoverKept.acknowledged (kept : HandoverKept world) (messages : MessagesKept world)
    (answerable : Answerable run message world) (held : world.broker.unacked run = some message)
    (copy : Copy sent message) : Disposed sent world := by
  rcases messages.answerable answerable held with copied | ⟨key, payment, ⟨correlation_id, body⟩, found, final⟩
  · exact .dead_lettered message copy (kept.copied run _ (own_mem.mp copied))
  · exact .ended key payment ⟨correlation_id, copy.body.symm.trans body⟩ found final

theorem HandoverKept.reaches (kept : HandoverKept world) (messages : MessagesKept world)
    (permits : PaymentPermits run op world) (evolves : PaymentsEvolve world after) {answer : Except Error op.Answer}
    (executed : World.Executed run world op after answer) (reached : Reached sent world) : Reached sent after := by
  refine reached.step (passing_executed executed) evolves ?_
  rintro message copy ⟨acks, held⟩
  exact kept.acknowledged messages (permits.answering acks message held) held copy

theorem HandoverKept.copied_executed (kept : HandoverKept world) {answer : Except Error op.Answer}
    (executed : World.Executed run world op after answer)
    (recorded : (.run owner, .dead_lettered message) ∈ after.trace) : message ∈ after.broker.dlq := by
  have dead := (passing_executed executed).dead
  rcases executed.trace with same | ⟨event, records, same⟩
  · exact dead message (kept.copied owner message (same ▸ recorded))
  · rcases List.mem_cons.mp (same ▸ recorded) with new | before
    · cases new
      cases executed with
      | raised => exact kept.copied run message recorded
      | dead_lettered copy answer known =>
          cases same
          exact List.mem_cons_self
      | _ => cases records
    · exact dead message (kept.copied owner message before)

/-- A purge finds rows that have been published or are dead. -/
theorem removing_purged (leases : LeasesKept deployment world) {cutoff : Datetime}
    (seen : (world.cell .outbox_messages id).visible run = some row) (selected : purgeable cutoff row = true)
    (recorded : after.trace = (.run run, .purged cutoff
      ((world.tables .outbox_messages).select run (purgeable cutoff))) :: world.trace) : Removing run id after := by
  have own : row.id = id := leases.keyed .outbox_messages id row (Cell.carries_of_visible seen)
  have grown : world.trace <:+ after.trace := recorded ▸ List.suffix_cons _ _
  refine ⟨row, ⟨[], cutoff, _, world.trace, recorded, Table.mem_select.mpr ⟨id, seen, selected⟩, ?_⟩, own, ?_⟩
  · intro entry member
    cases member
  · simp only [purgeable, Bool.and_eq_true, Bool.or_eq_true, decide_eq_true_eq] at selected
    refine selected.1.imp (fun processed => ?_) (fun dead => dead)
    rcases leases.confirmed id row (Cell.carries_of_visible seen) processed with ⟨worker, message, confirmed, same, _⟩
    exact Confirmed.mono ⟨worker, message, confirmed, same⟩ grown

theorem HandoverKept.removing_executed (kept : HandoverKept world) (leases : LeasesKept deployment world)
    {answer : Except Error op.Answer} (executed : World.Executed run world op after answer)
    (locked : (after.cell .outbox_messages id).lock = some (owner, none)) : Removing owner id after := by
  by_cases mine : owner = run
  · subst mine
    by_cases ends : op = .commit ∨ op = .rollback ∨ op = .close
    · rcases ends with rfl | rfl | rfl
      · rcases executed.commit_cases with rfl | rfl
        · exact kept.removing id owner locked
        · exact absurd ⟨_, locked⟩ Cell.not_heldBy_commit
      · cases executed with
        | raised => exact kept.removing id owner locked
        | rolled_back answer known => exact absurd ⟨_, locked⟩ Cell.not_heldBy_rollback
      · cases executed with
        | raised => exact kept.removing id owner locked
        | closed answer known => exact absurd ⟨_, locked⟩ Cell.not_heldBy_rollback
    · have continues : after.trace = world.trace ∨
          Exists fun entry => after.trace = entry :: world.trace ∧ ¬ Ending owner entry := by
        refine executed.trace.imp (fun same => same) ?_
        rintro ⟨event, records, same⟩
        refine ⟨_, same, fun ending => ?_⟩
        cases ending with
        | committed record =>
            cases records with
            | committed => exact ends (.inl rfl)
        | rolled_back =>
            cases records with
            | rolled_back => exact ends (.inr (.inl rfl))
      cases executed.cell .outbox_messages id with
      | kept same =>
          rw [same] at locked
          exact Removing.recorded (kept.removing id owner locked) continues
      | locked query limit row operation seen selected free same =>
          rw [same] at locked
          cases locked
      | updated statement time row operation seen selected free same =>
          rw [same] at locked
          cases locked
      | claimed query limit statement time row operation seen selected free same =>
          rw [same] at locked
          cases locked
      | deleted cutoff row operation table seen selected free same =>
          subst operation
          rcases executed.purge_recorded with rfl | recorded
          · exact kept.removing id owner locked
          · exact removing_purged leases seen selected recorded
      | added row operation own vacant same =>
          rw [same] at locked
          cases locked
      | inserted row operation table => cases table
      | committed operation same => exact absurd (.inl operation) ends
      | released operation same => exact absurd (.inr operation) ends
  · refine kept.removing_untouched (executed.untouched mine) (executed.trace.imp (fun same => same) ?_) locked
    rintro ⟨event, _, same⟩
    exact ⟨_, same, not_ending_of_actor event (World.actor_ne mine)⟩

theorem HandoverKept.landed_executed (kept : HandoverKept world)
    (reaches : forall sent, Reached sent world -> Reached sent after) {answer : Except Error op.Answer}
    (executed : World.Executed run world op after answer) {task : PublishTask}
    (listed : task ∈ (after.publishing worker).tasks) (landed : task.landed = true) :
    Reached (Message.of_outbox task.message) after := by
  rcases tasks_executed executed listed with before | ⟨waiting, _⟩
  · exact reaches _ (kept.landed worker task before landed)
  · rw [waiting] at landed
    cases landed

/-! ## The commit -/

/-- What a committed row has come to when a transaction has written it. -/
theorem HandoverKept.forwarded_commit (kept : HandoverKept world) (leases : LeasesKept deployment world)
    (posted : Posted (world.commit run).trace id row) : Forwarded id (world.commit run) := by
  have grown : world.trace <:+ (world.commit run).trace := List.suffix_cons _ _
  by_cases mine : (world.cell .outbox_messages id).HeldBy run
  · rcases mine with ⟨draft, locked⟩
    have installed : ((world.commit run).cell .outbox_messages id).committed = draft := by
      rw [World.cell_commit, Cell.commit_of_lock locked]
    cases draft with
    | none =>
        rcases kept.removing id run locked with ⟨purged, purging, own, confirmed | dead⟩
        · exact .confirmed (confirmed.mono grown)
        · exact .dead (.purged run (world.record run) purged [] world.trace rfl (World.mem_record.mpr locked) purging own
            dead)
    | some draft =>
        have carried : (world.cell .outbox_messages id).Carries draft := .draft locked
        cases status : draft.status with
        | PENDING => exact .waiting draft installed (.inl status)
        | PROCESSING => exact .waiting draft installed (.inr status)
        | PROCESSED =>
            rcases leases.confirmed id draft carried status with ⟨worker, message, confirmed, same, _⟩
            exact .confirmed (Confirmed.mono ⟨worker, message, confirmed, same⟩ grown)
        | DEAD => exact .dead (.installed draft (posted_commit.mpr (.inr locked)) status)
  · have before : Posted world.trace id row := by
      refine (posted_commit.mp posted).resolve_right (fun locked => mine ⟨_, locked⟩)
    refine (kept.forwarded id row before).kept grown ?_
    rw [World.cell_commit, Cell.commit_of_not_heldBy mine]

theorem HandoverKept.executed (kept : HandoverKept world) (messages : MessagesKept world)
    (leases : LeasesKept deployment world) (permits : PaymentPermits run op world)
    (evolves : PaymentsEvolve world after) {answer : Except Error op.Answer}
    (executed : World.Executed run world op after answer) : HandoverKept after := by
  have reaches : forall sent, Reached sent world -> Reached sent after :=
    fun _ => kept.reaches messages permits evolves executed
  have landed : forall worker task, task ∈ (after.publishing worker).tasks -> task.landed = true ->
      Reached (Message.of_outbox task.message) after := fun _ _ => kept.landed_executed reaches executed
  have copied : forall owner message, (.run owner, .dead_lettered message) ∈ after.trace ->
      message ∈ after.broker.dlq := fun _ _ => kept.copied_executed executed
  have removing : forall id owner, (after.cell .outbox_messages id).lock = some (owner, none) ->
      Removing owner id after := fun _ _ => kept.removing_executed leases executed
  by_cases commit : op = .commit
  · subst commit
    rcases executed.commit_cases with rfl | rfl
    · exact kept
    · refine ⟨landed, fun worker message recorded => ?_, copied, fun id row posted => kept.forwarded_commit leases posted,
        removing⟩
      rcases List.mem_cons.mp recorded with new | before
      · cases new
      · exact reaches _ (kept.accepted worker message before)
  · have unmoved : Unmoved world after := fun name key => (executed.cell name key).committed_same commit
    rcases executed.trace with same | ⟨event, records, same⟩
    · exact @HandoverKept.stepped world after kept [] same (fun _ _ => List.not_mem_nil) unmoved reaches landed
        (fun _ _ listed => by cases listed) copied removing
    · refine @HandoverKept.stepped world after kept [(.run run, event)] same (fun owner record listed => ?_) unmoved
        reaches landed (fun worker message listed => ?_) copied removing
      · cases List.mem_singleton.mp listed
        cases records
        exact commit rfl
      · cases List.mem_singleton.mp listed

/-! ## Other steps -/

theorem HandoverKept.crash (kept : HandoverKept world) (evolves : PaymentsEvolve world (world.crash run)) :
    HandoverKept (world.crash run) := by
  have reaches : forall sent, Reached sent world -> Reached sent (world.crash run) :=
    fun sent reached => reached.step (passing_crash run world) evolves (fun _ _ gone => gone.elim)
  have unmoved : Unmoved world (world.crash run) := by
    intro name key
    rw [World.crash_cell, Cell.rollback_committed]
  refine @HandoverKept.stepped world (world.crash run) kept [(.run run, .rolled_back)] World.crash_trace ?_ unmoved reaches
    (fun worker task listed landed => reaches _ (kept.landed worker task (tasks_crash listed) landed)) ?_ ?_ ?_
  · intro owner record listed
    cases List.mem_singleton.mp listed
  · intro worker message listed
    cases List.mem_singleton.mp listed
  · intro owner message recorded
    rw [World.crash_trace] at recorded
    rcases List.mem_cons.mp recorded with new | before
    · cases new
    · exact (passing_crash run world).dead message (kept.copied owner message before)
  · intro id owner locked
    by_cases mine : owner = run
    · subst mine
      rw [World.crash_cell] at locked
      exact absurd ⟨_, locked⟩ Cell.not_heldBy_rollback
    · exact kept.removing_untouched (World.crash_untouched mine)
        (.inr ⟨_, World.crash_trace, not_ending_of_actor _ (World.actor_ne mine)⟩) locked

theorem HandoverKept.delivered (kept : HandoverKept world) (listed : message ∈ world.broker.main)
    (idle : world.broker.unacked run = none) (evolves : PaymentsEvolve world (deliver run message world)) :
    HandoverKept (deliver run message world) := by
  have passing : Passing (fun _ => False) world (deliver run message world) := passing_delivered listed idle
  have reaches : forall sent, Reached sent world -> Reached sent (deliver run message world) :=
    fun sent reached => reached.step passing evolves (fun _ _ gone => gone.elim)
  refine @HandoverKept.stepped world (deliver run message world) kept [(.run run, .delivered message)] rfl ?_
    (fun _ _ => rfl) reaches (fun worker task listed landed => reaches _ (kept.landed worker task listed landed)) ?_ ?_ ?_
  · intro owner record member
    cases List.mem_singleton.mp member
  · intro worker found member
    cases List.mem_singleton.mp member
  · intro owner found recorded
    rcases List.mem_cons.mp recorded with new | before
    · cases new
    · exact kept.copied owner found before
  · intro id owner locked
    refine Removing.recorded (kept.removing id owner locked) (.inr ⟨_, rfl, fun ending => ?_⟩)
    cases ending

theorem HandoverKept.occurred (kept : HandoverKept world) (evolves : PaymentsEvolve world after)
    (occurred : World.Occurred world after) : HandoverKept after := by
  have reaches : forall sent, Reached sent world -> Reached sent after :=
    fun sent reached => reached.step (passing_occurred occurred) evolves (fun _ _ gone => gone.elim)
  have landed : forall worker task, task ∈ (after.publishing worker).tasks -> task.landed = true ->
      Reached (Message.of_outbox task.message) after := by
    intro worker task listed landed
    rcases tasks_occurred occurred listed with ⟨old, before, same, lands⟩
    rcases lands landed with already | arrived
    · exact same ▸ reaches _ (kept.landed worker old before already)
    · exact .in_flight _ (.refl _) arrived
  have accepted : forall worker message, (.environment, .publish_confirmed worker message) ∈ after.trace ->
      Reached (Message.of_outbox message) after := by
    intro worker message recorded
    rcases confirmed_occurred occurred recorded with before | ⟨task, before, rfl, arrived⟩
    · exact reaches _ (kept.accepted worker message before)
    · exact reaches _ (kept.landed worker task before arrived)
  have copied : forall owner message, (.run owner, .dead_lettered message) ∈ after.trace ->
      message ∈ after.broker.dlq := by
    intro owner message recorded
    refine (passing_occurred occurred).dead message (kept.copied owner message ?_)
    rcases occurred.trace with same | ⟨noted, _, same⟩
    · exact same ▸ recorded
    · rcases List.mem_cons.mp (same ▸ recorded) with new | before
      · cases new
      · exact before
  have unmoved : Unmoved world after := fun name key => congrArg Cell.committed (occurred.cell name key)
  have removing : forall id owner, (after.cell .outbox_messages id).lock = some (owner, none) ->
      Removing owner id after := by
    intro id owner locked
    refine kept.removing_untouched (occurred.untouched owner) (occurred.trace.imp (fun same => same) ?_) locked
    rintro ⟨noted, _, same⟩
    exact ⟨_, same, not_ending_of_actor noted (World.environment_ne owner)⟩
  rcases occurred.trace with same | ⟨noted, observed, same⟩
  · exact @HandoverKept.stepped world after kept [] same (fun _ _ => List.not_mem_nil) unmoved reaches landed
      (fun _ _ listed => by cases listed) copied removing
  · refine @HandoverKept.stepped world after kept [(.environment, noted)] same (fun owner record listed => ?_) unmoved
      reaches landed (fun worker message listed => ?_) copied removing
    · cases List.mem_singleton.mp listed
    · exact accepted worker message (same ▸ List.mem_cons.mpr (.inl (List.mem_singleton.mp listed)))

/-! ## What a consumer acknowledges -/

/-- The message has not used up its retries, so the consumer processes its payment. -/
def Retriable (settings : Settings) (message : Message) : Prop :=
  (PaymentConsumerHandler.rejected_count message.x_death : Int) < settings.RABBITMQ_MAX_RETRIES

def Uncopying (op : Op) : Prop :=
  forall copy, op ≠ .publish_dlq copy

theorem consume_uncopying {settings : Settings} {key : UUID} (retriable : Retriable settings message)
    (concerns : Concerns key message) : (PaymentConsumerHandler.handle settings message).OnlyCalls Uncopying := by
  rcases concerns with ⟨correlation_id, body⟩
  have process : (PaymentConsumerHandler.process (.uuid key) correlation_id).OnlyCalls Uncopying := by
    refine OnlyCalls.bind ((process_calls ⟨key, correlation_id⟩).mono (fun op calls => ?_)) (fun _ => OnlyCalls.ret _)
    rintro copy rfl
    cases calls with
    | scope ends => cases ends
  have route : (PaymentConsumerHandler.route settings message).OnlyCalls Uncopying := by
    have within : ¬ settings.RABBITMQ_MAX_RETRIES ≤ PaymentConsumerHandler.rejected_count message.x_death :=
      Int.not_le.mpr retriable
    rw [PaymentConsumerHandler.route, body]
    dsimp only
    rw [if_neg (not_not.mpr rfl), if_neg within]
    exact process
  refine OnlyCalls.bind (OnlyCalls.tryCatch (OnlyCalls.bind route (fun _ => OnlyCalls.ret _)) (fun error => ?_))
    (fun ended => ?_)
  · cases error <;> first | exact OnlyCalls.raise _ | exact OnlyCalls.ret _
  · cases ended with
    | true => exact OnlyCalls.perform (fun _ impossible => by cases impossible)
    | false => exact OnlyCalls.perform (fun _ impossible => by cases impossible)

/-- A consumer holds its own message or none, and publishes no copy of a message that it processes. -/
def ConsumerKept (run : RunId) (phase : (service deployment).Phase) (world : World) : Prop :=
  forall settings message rest, phase = .running (.consume settings message) rest ->
    (forall found, world.broker.unacked run = some found -> found = message) ∧
      forall key, Retriable settings message -> Concerns key message ->
        rest.OnlyCalls Uncopying ∧ forall copy, .dead_lettered copy ∉ world.own run

theorem ConsumerKept.stable {phase : (service deployment).Phase} (kept : ConsumerKept run phase world)
    (untouched : World.Untouched run world after) : ConsumerKept run phase after := by
  intro settings message rest running
  rcases kept settings message rest running with ⟨held, uncopied⟩
  refine ⟨fun found taken => ?_, fun key retriable concerns => untouched.own ▸ uncopied key retriable concerns⟩
  rcases untouched.unacked with same | gone
  · exact held found (same ▸ taken)
  · rw [gone] at taken
    cases taken

theorem ConsumerKept.executed {job : Job} {rest : Except Error op.Answer -> Program job.Result}
    (kept : @ConsumerKept deployment run (.running job (.call op rest)) world) {answer : Except Error op.Answer}
    (executed : World.Executed run world op after answer) :
    @ConsumerKept deployment run (.running job (rest answer)) after := by
  intro settings message rest' running
  cases running
  rcases kept settings message _ rfl with ⟨held, uncopied⟩
  refine ⟨fun found taken => held found (unacked_executed executed taken), fun key retriable concerns => ?_⟩
  rcases uncopied key retriable concerns with ⟨⟨uncopying, calls⟩, unlisted⟩
  refine ⟨calls answer, fun copy listed => ?_⟩
  rcases executed.own with same | ⟨event, records, same⟩
  · exact unlisted copy (same ▸ listed)
  · rcases List.mem_cons.mp (same ▸ listed) with new | before
    · subst new
      cases records with
      | dead_lettered => exact uncopying copy rfl
    · exact unlisted copy before

theorem consumer_started {job : Job} (started : start deployment job run world = some after)
    (silent : world.own run = []) (idle : world.broker.unacked run = none) :
    @ConsumerKept deployment run (.running job (program deployment run job)) after := by
  intro settings message rest running
  cases running
  rcases start_cases started with rfl | ⟨_, _, same, _, rfl⟩
  · refine ⟨fun found taken => ?_,
      fun key retriable concerns => ⟨consume_uncopying retriable concerns, fun copy listed => ?_⟩⟩
    · rw [idle] at taken
      cases taken
    · rw [silent] at listed
      cases listed
  · cases same
    refine ⟨fun found taken => ?_,
      fun key retriable concerns => ⟨consume_uncopying retriable concerns, fun copy listed => ?_⟩⟩
    · have taken : Function.update world.broker.unacked run (some message) run = some found := taken
      rw [Function.update_self] at taken
      exact (Option.some.inj taken).symm
    · rw [own_deliver, silent] at listed
      cases List.mem_singleton.mp listed

/-! ## Every step of the service -/

structure Progress (state : (service deployment).State) : Prop where
  messages : MessagesKept state.shared
  handover : HandoverKept state.shared
  consumers : forall run, ConsumerKept run (state.phase run) state.shared

/-- The broker has handed nothing to a run that has not been started. -/
theorem MessagesKept.idle (kept : MessagesKept world) (silent : world.own run = []) :
    world.broker.unacked run = none := by
  cases held : world.broker.unacked run with
  | none => rfl
  | some message =>
      have delivered := own_mem.mpr (kept.handed run message held)
      rw [silent] at delivered
      cases delivered

theorem progress_along {state : (service deployment).State}
    (reached : Machine.Reachable (fun _ _ => True) World.initial state) : Progress state := by
  induction reached with
  | refl =>
      refine ⟨messages_kept_initially, handover_kept_initially, fun run settings message rest running => ?_⟩
      cases running
  | @step state next action earlier taken _ inductionHypothesis =>
      rcases inductionHypothesis with ⟨messages, handover, consumers⟩
      have creations := (creation_verified deployment).invariant (creation_reachable earlier)
      have leases := (outbox_verified deployment).invariant earlier
      have evolves : PaymentsEvolve state.shared next.shared :=
        (payment_verified deployment).evolves earlier (.step action .refl taken trivial)
      have others : forall {run other : RunId} {phase} {shared : World}, World.Untouched other state.shared shared ->
          other ≠ run -> @ConsumerKept deployment other (state.setPhase run phase other) shared := by
        intro run other phase shared untouched different
        rw [Machine.State.setPhase_of_ne state phase different]
        exact (consumers other).stable untouched
      rcases Machine.step_cases taken with
        ⟨run, job, shared, absent, started, rfl⟩ | ⟨run, job, op, rest, choice, outcome, running, ran, rfl⟩ |
        ⟨run, job, op, rest, running, rfl⟩ | ⟨event, shared, happened, rfl⟩
      · have silent : state.shared.own run = [] := (((payment_verified deployment).sound earlier).absent run absent).2
        have idle := messages.idle silent
        have untouched : forall other, other ≠ run -> World.Untouched other state.shared shared := by
          intro other different
          rcases start_cases started with rfl | ⟨_, _, _, _, rfl⟩
          · exact .refl other _
          · exact untouched_deliver different
        have kept : forall other, @ConsumerKept deployment other
            (state.setPhase run (.running job (program deployment run job)) other) shared := by
          intro other
          by_cases same : other = run
          · subst same
            rw [Machine.State.setPhase_self state]
            exact consumer_started started silent idle
          · exact others (untouched other same) same
        rcases start_cases started with rfl | ⟨settings, message, _, listed, rfl⟩
        · exact ⟨messages, handover, kept⟩
        · exact ⟨messages.delivered creations listed idle, handover.delivered listed idle evolves, kept⟩
      · have executed := service_executed ran
        have payment := (payment_verified deployment).permitted earlier running
        have lease := (outbox_verified deployment).permitted earlier running
        refine ⟨messages.executed lease executed, handover.executed messages leases payment evolves executed,
          fun other => ?_⟩
        by_cases same : other = run
        · subst same
          have before := consumers other
          rw [running] at before
          have now := before.executed executed
          rw [← Machine.State.setPhase_self state other (.running job (rest outcome.2))] at now
          exact now
        · exact others (executed.untouched same) same
      · refine ⟨messages.crash, handover.crash evolves, fun other => ?_⟩
        by_cases same : other = run
        · subst same
          intro settings message rest' impossible
          cases (Machine.State.setPhase_self state other .crashed).symm.trans impossible
        · exact others (World.crash_untouched same) same
      · have occurred := World.happen_occurred happened
        exact ⟨messages.occurred occurred, handover.occurred evolves occurred,
          fun other => (consumers other).stable (occurred.untouched other)⟩

/-! ## No payment is lost -/

/-- Where a committed payment is, given its outbox row. -/
inductive Whereabouts (payment : PaymentModel) (id : UUID) (world : World) : Prop where
  | ended (status : payment.status = .SUCCEEDED ∨ payment.status = .FAILED)
  | outbox (row : OutboxMessageModel) (found : (world.cell .outbox_messages id).committed = some row)
      (status : row.status = .PENDING ∨ row.status = .PROCESSING)
  | broker (row : OutboxMessageModel) (message : Message) (posted : Posted world.trace id row)
      (copy : Copy (Message.of_outbox row.to_domain) message) (present : InFlight world.broker message)
  | dead (moved : MovedToDead id world.trace)
  | dead_lettered (row : OutboxMessageModel) (message : Message) (posted : Posted world.trace id row)
      (copy : Copy (Message.of_outbox row.to_domain) message)
      (listed : PaymentConsumerHandler.dlq_copy message ∈ world.broker.dlq)

structure NothingLost (state : (service deployment).State) : Prop where
  /-- Every committed payment is somewhere; `id` is its only outbox row. -/
  accounted : forall key payment, (state.shared.cell .payments key).committed = some payment ->
    Exists fun id => (forall other, Announced state.shared.trace key other <-> other = id) ∧
      Whereabouts payment id state.shared
  /-- What a consumer acknowledges after the process handler has returned belongs to a payment that has ended. -/
  acknowledged : forall run settings message next found,
    state.phase run = .running (.consume settings message) (.call .ack next) ->
    state.shared.broker.unacked run = some found -> Retriable settings message ->
    found = message ∧ Exists fun key => Exists fun payment => Concerns key message ∧
      (state.shared.cell .payments key).committed = some payment ∧
      (payment.status = .SUCCEEDED ∨ payment.status = .FAILED)

theorem Final.status {payment : PaymentModel} (final : Final payment) :
    payment.status = .SUCCEEDED ∨ payment.status = .FAILED := by
  have terminal := final.terminal
  cases status : payment.status with
  | SUCCEEDED => exact .inl rfl
  | FAILED => exact .inr rfl
  | PENDING =>
      rw [status] at terminal
      cases terminal
  | PROCESSING =>
      rw [status] at terminal
      cases terminal

/-- No committed payment is lost, as long as what is published under
`RABBITMQ_ROUTING_KEY` is routed to the main queue. -/
theorem nothing_lost {state : (service deployment).State}
    (reached : Machine.Reachable (fun _ _ => True) World.initial state) : NothingLost state := by
  have creations := (creation_verified deployment).invariant (creation_reachable reached)
  rcases progress_along reached with ⟨messages, handover, consumers⟩
  refine ⟨fun key payment found => ?_, fun run settings message next held running taken retriable => ?_⟩
  · rcases creations.announced key payment found with ⟨id, only⟩
    refine ⟨id, only, ?_⟩
    rcases (only id).mpr rfl with ⟨row, posted, _, own⟩
    subst own
    cases handover.forwarded id row posted with
    | waiting row found status => exact .outbox row found status
    | dead moved => exact .dead moved
    | confirmed confirmed =>
        rcases confirmed with ⟨worker, message, recorded, named⟩
        rcases messages.confirmed worker message recorded with ⟨sent, posted', rfl⟩
        have named : sent.id = id := named
        subst named
        have same := message_of_same (messages.worded.agreeing sent.id sent row (.posted posted') (.posted posted))
        have reached := handover.accepted worker _ recorded
        rw [same] at reached
        cases reached with
        | in_flight copied copy present => exact .broker row copied posted copy present
        | disposed disposed =>
            cases disposed with
            | dead_lettered copied copy listed => exact .dead_lettered row copied posted copy listed
            | ended other later concerns found' final =>
                rcases creations.concerned posted (.refl _) with ⟨_, body⟩
                rcases concerns with ⟨_, body'⟩
                rw [body] at body'
                cases body'
                cases found.symm.trans found'
                exact .ended final.status
  · rcases consumers run settings message _ running with ⟨own, uncopied⟩
    have same := own held taken
    subst same
    have permits : PaymentPermits run .ack state.shared := (payment_verified deployment).permitted reached running
    rcases messages.answerable (permits.answering rfl held taken) taken with
      copied | ⟨key, payment, concerns, found, final⟩
    · rcases messages.held held (.flying (.delivered run taken)) with ⟨row, posted, copy⟩
      exact absurd copied ((uncopied _ retriable (creations.concerned posted copy)).2 _)
    · exact ⟨rfl, key, payment, concerns, found, final.status⟩

/-! ## A payment whose charge has failed -/

/-- The message of payment 1, which outbox row 2 announces. -/
def first_message : Message where
  message_id := some 2
  body := .object (some "PaymentCreated") (.uuid 1) (some "request-1")
  correlation_id := some "request-1"
  x_death := []

/-- Worker 1 publishes the message of payment 1 and marks its row, and the
consumer of run 2 rejects the message because the gateway does not answer. -/
def rejecting : List (service sample_deployment).Action :=
  creating ++ [.start 1 (.outbox {} 1), .perform 1 (.calm 10 0), .perform 1 (.calm 10 0), .perform 1 (.calm 10 0),
    .perform 1 (.calm 10 0), .perform 1 (.calm 10 0), .perform 1 (.calm 10 0), .perform 1 (.calm 10 0),
    .env (.start_publish 1 0), .env (.land_publish 1 0), .env (.finish_publish 1 0 true), .perform 1 (.calm 10 0),
    .perform 1 (.calm 10 0), .perform 1 (.calm 10 0), .perform 1 (.calm 10 0), .start 2 (.consume {} first_message),
    .perform 2 (.calm 11 0), .perform 2 (.calm 11 0), .perform 2 (.calm 11 0), .perform 2 (.calm 11 0),
    .perform 2 (.calm 11 3), .perform 2 (.calm 11 0), .perform 2 (.calm 11 0),
    .perform 2 { Choice.calm 11 0 with interruption := some .failed }, .perform 2 (.calm 11 0), .perform 2 (.calm 11 0),
    .perform 2 (.calm 11 0)]

/-- Only the retry queue still has the payment, whose row is pending and whose message is processed. -/
theorem rejected_payment_kept : Exists fun state : (service sample_deployment).State =>
    Machine.Reachable (fun _ _ => True) World.initial state ∧
      (state.shared.cell .payments 1).committed.map PaymentModel.status = some .PENDING ∧
      (state.shared.cell .outbox_messages 2).committed.map OutboxMessageModel.status = some .PROCESSED ∧
      state.shared.broker.main = [] ∧ state.shared.broker.retry = [first_message.dead_letter .main "rejected"] ∧
      NothingLost state := by
  have shown : (Machine.runFrom (Machine.fresh World.initial) rejecting).map (fun state =>
      ((state.shared.cell .payments 1).committed.map PaymentModel.status,
        (state.shared.cell .outbox_messages 2).committed.map OutboxMessageModel.status, state.shared.broker.main,
        state.shared.broker.retry)) =
      some (some .PENDING, some .PROCESSED, [], [first_message.dead_letter .main "rejected"]) := by decide +kernel
  rcases Option.map_eq_some_iff.mp shown with ⟨state, ran, found⟩
  rcases Prod.mk.inj found with ⟨payment, found⟩
  rcases Prod.mk.inj found with ⟨outbox, found⟩
  rcases Prod.mk.inj found with ⟨main, retry⟩
  have reached := Machine.Path.of_runFrom _ ran
  exact ⟨state, reached, payment, outbox, main, retry, nothing_lost reached⟩

end Properties
end Payments
