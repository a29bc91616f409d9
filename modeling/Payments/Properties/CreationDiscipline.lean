import Payments.Properties.PaymentConsumers

namespace Payments
namespace Properties

open Concurrency Domain Infrastructure Application Prog UnitOfWork Payments.System

/-!
# A payment and its message

A payment is created in one transaction with the outbox row that announces it,
and no other transaction adds a payment or an outbox row.  What others write is
a later version of a row that is committed already, so the commits that create
can be told from all others.
-/

variable {deployment : Deployment} {world after : World} {run : RunId} {op : Op} {key id : UUID}

/-! ## Messages -/

/-- The outbox row as it was added. -/
def as_added (row : OutboxMessageModel) : OutboxMessageModel :=
  { row with
    attempts := 0
    status := .PENDING
    next_retry_at := none
    claimed_at := none
    claimed_by := none
    processed_at := none
    finished_at := none }

@[simp] theorem as_added_values (statement : Update .outbox_messages) (now : Datetime) (row : OutboxMessageModel) :
    as_added (statement.values now row) = as_added row := by
  cases statement <;> rfl

/-- The message tells of the creation of the payment. -/
structure Announces (payment : PaymentModel) (message : OutboxMessageModel) : Prop where
  event_type : message.event_type = message.payload.event_type
  aggregate_id : message.aggregate_id = message.payload.aggregate_id
  payload : Exists fun occurred_at => Exists fun amount => message.payload =
    .PaymentCreated payment.id occurred_at payment.correlation_id amount payment.currency payment.description
      payment.metadata payment.webhook_url payment.idempotency_key payment.created_at

/-- What a message tells is never changed, neither in its row nor in that of its payment. -/
theorem Announces.of_same {payment later : PaymentModel} {message marked : OutboxMessageModel}
    (announces : Announces payment message) (same_payment : origin later = origin payment)
    (same_message : as_added marked = as_added message) : Announces later marked := by
  have payload : marked.payload = message.payload := by
    have payloads := congrArg OutboxMessageModel.payload same_message
    exact payloads
  have event_type : marked.event_type = message.event_type := by
    have types := congrArg OutboxMessageModel.event_type same_message
    exact types
  have aggregate_id : marked.aggregate_id = message.aggregate_id := by
    have ids := congrArg OutboxMessageModel.aggregate_id same_message
    exact ids
  rcases announces.payload with ⟨occurred_at, amount, tells⟩
  refine ⟨event_type.trans (announces.event_type.trans (congrArg _ payload.symm)),
    aggregate_id.trans (announces.aggregate_id.trans (congrArg _ payload.symm)), occurred_at, amount, ?_⟩
  rw [payload, tells]
  rcases later with ⟨_, _, _, _, _, _, _, _, _, _, _, _⟩
  rcases payment with ⟨_, _, _, _, _, _, _, _, _, _, _, _⟩
  cases same_payment
  rfl

theorem Announces.aggregate {payment : PaymentModel} {message : OutboxMessageModel}
    (announces : Announces payment message) : message.aggregate_id = payment.id := by
  rcases announces.payload with ⟨occurred_at, amount, tells⟩
  rw [announces.aggregate_id, tells]
  rfl

theorem Announces.created {payment : PaymentModel} {message : OutboxMessageModel}
    (announces : Announces payment message) : message.event_type = "PaymentCreated" := by
  rcases announces.payload with ⟨occurred_at, amount, tells⟩
  rw [announces.event_type, tells]
  rfl

/-- A transaction on record has installed this version of the outbox row. -/
def Posted (trace : List Entry) (id : UUID) (row : OutboxMessageModel) : Prop :=
  Exists fun run => Exists fun record : Record => (.run run, .committed record) ∈ trace ∧
    (id, some row) ∈ record .outbox_messages

/-- An outbox row of this identifier has been committed for the creation of the payment. -/
def Announced (trace : List Entry) (key id : UUID) : Prop :=
  Exists fun row => Posted trace id row ∧ row.event_type = "PaymentCreated" ∧ row.aggregate_id = key

theorem Posted.mono {trace later : List Entry} {row : OutboxMessageModel} (posted : Posted trace id row)
    (grown : trace <:+ later) : Posted later id row := by
  rcases posted with ⟨run, record, recorded, listed⟩
  exact ⟨run, record, grown.subset recorded, listed⟩

/-- What a step without a commit leaves on record. -/
theorem posted_moved {new : List Entry} {row : OutboxMessageModel} (trace : after.trace = new ++ world.trace)
    (uncommitted : forall run record, (.run run, .committed record) ∉ new) :
    Posted after.trace id row <-> Posted world.trace id row := by
  constructor
  · rintro ⟨run, record, recorded, listed⟩
    rw [trace, List.mem_append] at recorded
    exact ⟨run, record, recorded.resolve_left (uncommitted run record), listed⟩
  · exact fun posted => posted.mono (trace ▸ List.suffix_append new world.trace)

/-- A commit puts the drafts of its run on record. -/
theorem posted_commit {row : OutboxMessageModel} :
    Posted (world.commit run).trace id row <->
      Posted world.trace id row ∨ (world.cell .outbox_messages id).lock = some (run, some row) := by
  constructor
  · rintro ⟨owner, record, recorded, listed⟩
    rcases List.mem_cons.mp recorded with same | before
    · cases same
      exact .inr (World.mem_record.mp listed)
    · exact .inl ⟨owner, record, before, listed⟩
  · rintro (posted | locked)
    · exact posted.mono (List.suffix_cons _ _)
    · exact ⟨run, world.record run, List.mem_cons_self, World.mem_record.mpr locked⟩

/-! ## Versions of committed rows -/

/-- Whatever the run has written to the table replaces a committed row that is related to it. -/
def Over (name : TableName) (related : Row name -> Row name -> Prop) (run : RunId) (world : World) : Prop :=
  forall key draft, (world.cell name key).lock = some (run, some draft) ->
    Exists fun old => (world.cell name key).committed = some old ∧ related old draft

theorem Over.stable {name : TableName} {related : Row name -> Row name -> Prop} (known : Over name related run world)
    (untouched : World.Untouched run world after) : Over name related run after := by
  intro key draft locked
  have same := lock_untouched untouched ⟨_, locked⟩
  rw [same] at locked ⊢
  exact known key draft locked

theorem Away.replacing {name : TableName} {related : Row name -> Row name -> Prop} (away : Away name run world) :
    Over name related run world :=
  fun key _ locked => absurd ⟨_, locked⟩ (away key)

/-- An operation that adds nothing replaces committed rows only. -/
theorem Over.executed {name : TableName} {related : Row name -> Row name -> Prop} (known : Over name related run world)
    (reflexive : forall row, related row row)
    (updated : forall old row statement time, related old row -> related old (Update.values statement time row))
    (unadded : forall row, op ≠ .add name row) (uninserted : forall row, op ≠ .insert_on_conflict_do_nothing (some row))
    {answer : Except Error op.Answer} (executed : World.Executed run world op after answer) :
    Over name related run after := by
  have seen_over : forall {key row}, (world.cell name key).visible run = some row ->
      Exists fun old => (world.cell name key).committed = some old ∧ related old row := by
    intro key row seen
    by_cases mine : (world.cell name key).HeldBy run
    · rcases mine with ⟨draft, locked⟩
      rw [Cell.visible_of_lock locked] at seen
      exact known key row (seen ▸ locked)
    · rw [Cell.visible_of_not_heldBy mine] at seen
      exact ⟨row, seen, reflexive row⟩
  intro key draft locked
  cases executed.cell name key with
  | kept same =>
      rw [same] at locked ⊢
      exact known key draft locked
  | locked query limit row operation seen selected free same =>
      rw [same] at locked ⊢
      cases locked
      exact seen_over seen
  | updated statement time row operation seen selected free same =>
      rw [same] at locked ⊢
      cases locked
      rcases seen_over seen with ⟨old, found, same_row⟩
      exact ⟨old, found, updated old row statement time same_row⟩
  | claimed query limit statement time row operation seen selected free same =>
      rw [same] at locked ⊢
      cases locked
      rcases seen_over seen with ⟨old, found, same_row⟩
      exact ⟨old, found, updated old row statement time same_row⟩
  | deleted cutoff row operation table seen selected free same =>
      rw [same] at locked
      cases locked
  | added row operation => exact absurd operation (unadded row)
  | inserted row operation => exact absurd operation (uninserted row)
  | committed operation same => exact absurd ⟨_, same ▸ locked⟩ Cell.not_heldBy_commit
  | released operation same => exact absurd ⟨_, same ▸ locked⟩ Cell.not_heldBy_rollback

/-- The run has written later versions of committed payments and outbox rows only. -/
structure Continuing (run : RunId) (world : World) : Prop where
  payments : Over .payments (fun _ _ => True) run world
  messages : Over .outbox_messages (fun old draft => as_added draft = as_added old) run world

theorem Continuing.stable (continuing : Continuing run world) (untouched : World.Untouched run world after) :
    Continuing run after :=
  ⟨continuing.payments.stable untouched, continuing.messages.stable untouched⟩

/-- Operations that create nothing. -/
structure ContinuingOp (op : Op) : Prop where
  uninserted : forall row, op ≠ .insert_on_conflict_do_nothing (some row)
  unpaid : forall row, op ≠ .add .payments row
  unannounced : forall row, op ≠ .add .outbox_messages row
  unasked : forall text, op ≠ .select .payments (.payment_by_idempotency_key text)

theorem Continuing.executed (continuing : Continuing run world) (neutral : ContinuingOp op)
    {answer : Except Error op.Answer} (executed : World.Executed run world op after answer) : Continuing run after where
  payments := continuing.payments.executed (fun _ => trivial) (fun _ _ _ _ _ => trivial) neutral.unpaid
    neutral.uninserted executed
  messages := continuing.messages.executed (fun _ => rfl)
    (fun _ row statement time same => (as_added_values statement time row).trans same) neutral.unannounced
    neutral.uninserted executed

/-! ## The invariant -/

/-- What the transaction of a run would install: later versions, or one new
payment with the one message that announces it. -/
inductive Creates (run : RunId) (world : World) : Prop where
  | continuing (continuing : Continuing run world)
  | created (key id : UUID) (payment : PaymentModel) (message : OutboxMessageModel)
      (payments : Holds .payments run key payment world) (vacant : (world.cell .payments key).committed = none)
      (messages : Holds .outbox_messages run id message world) (announces : Announces payment message)

structure CreationsKept (world : World) : Prop where
  payments : PaymentsKept world
  posted : forall id row, (world.cell .outbox_messages id).committed = some row -> Posted world.trace id row
  announcing : forall id row, Posted world.trace id row ->
    Exists fun payment => (world.cell .payments row.aggregate_id).committed = some payment ∧ Announces payment row
  /-- A committed payment has been announced by one outbox row. -/
  announced : forall key payment, (world.cell .payments key).committed = some payment ->
    Exists fun id => forall other, Announced world.trace key other <-> other = id

/-- What a run may do about creations. -/
structure CreationPermits (run : RunId) (op : Op) (world : World) : Prop where
  committing : op = .commit -> world.refusing run = true ∨ Creates run world
  /-- A payment is loaded by its key where the key is taken. -/
  reloading : forall text, op = .select .payments (.payment_by_idempotency_key text) ->
    Exists fun key => Exists fun row => (world.cell .payments key).committed = some row ∧ row.idempotency_key = text

theorem creations_kept_initially : CreationsKept World.initial where
  payments := payments_kept_initially
  posted := fun _ _ found => by cases found
  announcing := by
    rintro id row ⟨run, record, recorded, _⟩
    cases recorded
  announced := fun _ _ found => by cases found

/-- A payment of which nobody knows has not been announced. -/
theorem CreationsKept.unannounced (kept : CreationsKept world) (vacant : (world.cell .payments key).committed = none) :
    ¬ Announced world.trace key id := by
  rintro ⟨row, posted, _, rfl⟩
  rcases kept.announcing id row posted with ⟨payment, found, _⟩
  rw [vacant] at found
  cases found

/-- A step that commits nothing. -/
theorem CreationsKept.moved (kept : CreationsKept world) (payments : PaymentsKept after) {new : List Entry}
    (unmoved : Unmoved world after) (trace : after.trace = new ++ world.trace)
    (uncommitted : forall run record, (.run run, .committed record) ∉ new) : CreationsKept after where
  payments := payments
  posted := fun id row found => (posted_moved trace uncommitted).mpr
    (kept.posted id row ((unmoved .outbox_messages id).symm.trans found))
  announcing := by
    intro id row posted
    rcases kept.announcing id row ((posted_moved trace uncommitted).mp posted) with ⟨payment, found, announces⟩
    exact ⟨payment, (unmoved .payments _).trans found, announces⟩
  announced := by
    intro key payment found
    rcases kept.announced key payment ((unmoved .payments key).symm.trans found) with ⟨id, only⟩
    refine ⟨id, fun other => ?_⟩
    rw [← only other]
    exact exists_congr (fun row => and_congr_left' (posted_moved trace uncommitted))

/-! ## The commit -/

/-- A commit changes what it has written. -/
theorem committed_commit {name : TableName} {row : Row name}
    (found : ((world.commit run).cell name key).committed = some row) :
    (world.cell name key).committed = some row ∨ (world.cell name key).lock = some (run, some row) := by
  by_cases mine : (world.cell name key).HeldBy run
  · rcases mine with ⟨draft, locked⟩
    rw [World.cell_commit, Cell.commit_of_lock locked] at found
    have same : draft = some row := found
    exact .inr (same ▸ locked)
  · rw [World.cell_commit, Cell.commit_of_not_heldBy mine] at found
    exact .inl found

/-- What is announced after a commit was announced before, or its run has written the message. -/
theorem announced_commit {other : UUID} : Announced (world.commit run).trace key other <->
    Announced world.trace key other ∨ Exists fun row => (world.cell .outbox_messages other).lock = some (run, some row) ∧
      row.event_type = "PaymentCreated" ∧ row.aggregate_id = key := by
  constructor
  · rintro ⟨row, posted, created, named⟩
    rcases posted_commit.mp posted with before | locked
    · exact .inl ⟨row, before, created, named⟩
    · exact .inr ⟨row, locked, created, named⟩
  · rintro (⟨row, posted, created, named⟩ | ⟨row, locked, created, named⟩)
    · exact ⟨row, posted_commit.mpr (.inl posted), created, named⟩
    · exact ⟨row, posted_commit.mpr (.inr locked), created, named⟩

theorem CreationsKept.posted_committed (kept : CreationsKept world) {row : OutboxMessageModel}
    (found : ((world.commit run).cell .outbox_messages id).committed = some row) :
    Posted (world.commit run).trace id row := by
  rcases committed_commit found with before | locked
  · exact posted_commit.mpr (.inl (kept.posted id row before))
  · exact posted_commit.mpr (.inr locked)

/-- A known payment stays, and what it has been announced with fits its later versions. -/
theorem CreationsKept.announcing_later (kept : CreationsKept world) (evolves : PaymentsEvolve world after)
    {row : OutboxMessageModel} (posted : Posted world.trace id row) {marked : OutboxMessageModel}
    (same : as_added marked = as_added row) : Exists fun payment =>
      (after.cell .payments marked.aggregate_id).committed = some payment ∧ Announces payment marked := by
  rcases kept.announcing id row posted with ⟨payment, found, announces⟩
  rcases evolves.grows _ payment found with ⟨later, found', grows⟩
  have named : marked.aggregate_id = row.aggregate_id := by
    have ids := congrArg OutboxMessageModel.aggregate_id same
    exact ids
  exact ⟨later, named ▸ found', announces.of_same grows.origin same⟩

/-- Later versions of rows announce nothing new. -/
theorem CreationsKept.commit_continuing (kept : CreationsKept world) (payments : PaymentsKept (world.commit run))
    (evolves : PaymentsEvolve world (world.commit run)) (continuing : Continuing run world) :
    CreationsKept (world.commit run) where
  payments := payments
  posted := fun _ _ found => kept.posted_committed found
  announcing := by
    intro id row posted
    rcases posted_commit.mp posted with before | locked
    · exact kept.announcing_later evolves before rfl
    · rcases continuing.messages id row locked with ⟨old, found, same⟩
      exact kept.announcing_later evolves (kept.posted id old found) same
  announced := by
    intro key payment found
    have known : Exists fun earlier => (world.cell .payments key).committed = some earlier := by
      rcases committed_commit found with before | locked
      · exact ⟨payment, before⟩
      · rcases continuing.payments key payment locked with ⟨old, before, _⟩
        exact ⟨old, before⟩
    rcases known with ⟨earlier, before⟩
    rcases kept.announced key earlier before with ⟨id, only⟩
    refine ⟨id, fun other => ?_⟩
    rw [announced_commit, ← only other]
    refine or_iff_left_of_imp ?_
    rintro ⟨row, locked, created, named⟩
    rcases continuing.messages other row locked with ⟨old, found', same⟩
    have types := congrArg OutboxMessageModel.event_type same
    have ids := congrArg OutboxMessageModel.aggregate_id same
    exact ⟨old, kept.posted other old found', types.symm.trans created, ids.symm.trans named⟩

/-- A new payment comes with its message. -/
theorem CreationsKept.commit_created (kept : CreationsKept world) (payments : PaymentsKept (world.commit run))
    (evolves : PaymentsEvolve world (world.commit run)) {payment : PaymentModel} {message : OutboxMessageModel}
    (writes : Holds .payments run key payment world) (vacant : (world.cell .payments key).committed = none)
    (messages : Holds .outbox_messages run id message world) (announces : Announces payment message) :
    CreationsKept (world.commit run) := by
  have locked := (writes key (some payment)).mpr ⟨rfl, rfl⟩
  have named : message.aggregate_id = key :=
    announces.aggregate.trans (kept.payments.keyed .payments key payment (.draft locked))
  have found : ((world.commit run).cell .payments key).committed = some payment := by
    rw [World.cell_commit, Cell.commit_of_lock locked]
  refine ⟨payments, fun _ _ found => kept.posted_committed found, ?_, ?_⟩
  · intro other row posted
    rcases posted_commit.mp posted with before | written
    · exact kept.announcing_later evolves before rfl
    · rcases (messages other (some row)).mp written with ⟨_, same⟩
      cases same
      exact ⟨payment, named ▸ found, announces⟩
  · intro found_key row found'
    by_cases here : found_key = key
    · subst here
      refine ⟨id, fun other => ?_⟩
      rw [announced_commit, or_iff_right (kept.unannounced vacant)]
      constructor
      · rintro ⟨row, written, _, _⟩
        exact ((messages other (some row)).mp written).1
      · rintro rfl
        exact ⟨message, (messages other (some message)).mpr ⟨rfl, rfl⟩, announces.created, named⟩
    · have before : (world.cell .payments found_key).committed = some row := by
        rcases committed_commit found' with before | written
        · exact before
        · exact absurd ((writes found_key (some row)).mp written).1 here
      rcases kept.announced found_key row before with ⟨id', only⟩
      refine ⟨id', fun other => ?_⟩
      rw [announced_commit, ← only other]
      refine or_iff_left_of_imp ?_
      rintro ⟨row, written, _, elsewhere⟩
      rcases (messages other (some row)).mp written with ⟨_, same⟩
      cases same
      exact absurd (elsewhere.symm.trans named) here

/-! ## Every step -/

theorem CreationsKept.executed (kept : CreationsKept world) (payments : PaymentsKept after)
    (evolves : PaymentsEvolve world after) (permits : CreationPermits run op world) {answer : Except Error op.Answer}
    (executed : World.Executed run world op after answer) : CreationsKept after := by
  by_cases commit : op = .commit
  · subst commit
    cases executed with
    | raised => exact kept
    | committed answer known accepting =>
        rcases permits.committing rfl with refusing | creates
        · rw [accepting] at refusing
          cases refusing
        · cases creates with
          | continuing continuing => exact kept.commit_continuing payments evolves continuing
          | created key id payment message writes vacant messages announces =>
              exact kept.commit_created payments evolves writes vacant messages announces
  · have unmoved : Unmoved world after := fun name key => (executed.cell name key).committed_same commit
    rcases executed.trace with same | ⟨event, records, same⟩
    · exact @CreationsKept.moved world after kept payments [] unmoved same (fun _ _ => List.not_mem_nil)
    · refine @CreationsKept.moved world after kept payments [(.run run, event)] unmoved same (fun owner record listed => ?_)
      cases List.mem_singleton.mp listed
      cases records
      exact commit rfl

theorem CreationsKept.crash (kept : CreationsKept world) (payments : PaymentsKept (world.crash run)) :
    CreationsKept (world.crash run) := by
  refine @CreationsKept.moved world _ kept payments [(.run run, .rolled_back)] (fun name key => ?_) World.crash_trace
    (fun owner record listed => by cases List.mem_singleton.mp listed)
  rw [World.crash_cell, Cell.rollback_committed]

theorem CreationsKept.occurred (kept : CreationsKept world) (payments : PaymentsKept after)
    (occurred : World.Occurred world after) : CreationsKept after := by
  have unmoved : Unmoved world after := fun name key => congrArg Cell.committed (occurred.cell name key)
  rcases occurred.trace with same | ⟨event, observed, same⟩
  · exact @CreationsKept.moved world after kept payments [] unmoved same (fun _ _ => List.not_mem_nil)
  · refine @CreationsKept.moved world after kept payments [(.environment, event)] unmoved same
      (fun owner record listed => ?_)
    cases List.mem_singleton.mp listed

theorem CreationsKept.delivered (kept : CreationsKept world) {message : Message}
    (payments : PaymentsKept (deliver run message world)) : CreationsKept (deliver run message world) :=
  @CreationsKept.moved world _ kept payments [(.run run, .delivered message)] (fun _ _ => rfl) rfl
    (fun owner record listed => by cases List.mem_singleton.mp listed)

/-! ## The discipline -/

/-- What is known of the payments is taken for granted of every step. -/
def creation_discipline (deployment : Deployment) : Discipline (service deployment) where
  inv := CreationsKept
  evolves := PaymentsEvolve
  frame := World.Untouched
  permits := CreationPermits
  allowed := fun before after => PaymentsKept after ∧ PaymentsEvolve before after
  evolves_refl := PaymentsEvolve.refl
  evolves_trans := PaymentsEvolve.trans
  frame_refl := World.Untouched.refl
  frame_trans := World.Untouched.trans

theorem creation_upheld (deployment : Deployment) : (creation_discipline deployment).Upheld World.initial where
  initially := creations_kept_initially
  starts := by
    rintro run job world after kept started ⟨payments, evolves⟩
    rcases start_cases started with rfl | ⟨settings, message, _, _, rfl⟩
    · exact ⟨kept, evolves, fun other _ => .refl other after⟩
    · exact ⟨kept.delivered payments, evolves, fun other different => untouched_deliver different⟩
  operations := by
    rintro run op choice world after answer kept permits ran ⟨payments, evolves⟩
    have executed := World.exec_executed ran
    exact ⟨kept.executed payments evolves permits executed, evolves, fun other different => executed.untouched different⟩
  crashes := by
    rintro run world kept ⟨payments, evolves⟩
    exact ⟨kept.crash payments, evolves, fun other different => World.crash_untouched different⟩
  environment := by
    rintro event world after kept happened ⟨payments, evolves⟩
    have occurred := World.happen_occurred happened
    exact ⟨kept.occurred payments occurred, evolves, fun run => occurred.untouched run⟩

/-! ## Programs that create nothing -/

def continuing (run : RunId) : (creation_discipline deployment).Assertion run where
  holds := Continuing run
  stable := fun known rely _ => known.stable rely.1

theorem continuing_triple {X : Type} {program : Program X} (calls : program.OnlyCalls ContinuingOp) :
    (creation_discipline deployment).Triple (continuing run) program (fun _ => continuing run)
      (fun _ => continuing run) :=
  Discipline.Triple.of_onlyCalls (continuing run)
    (fun _ neutral _ _ known =>
      ⟨fun _ => .inr (.continuing known), fun text same => absurd same (neutral.unasked text)⟩)
    (fun _ neutral _ _ _ _ _ known ran _ => known.executed neutral (World.exec_executed ran))
    (fun _ _ _ known => known) (fun _ _ _ known => known) calls

theorem continuing_scope (ends : ScopeCalls op) : ContinuingOp op := by
  cases ends <;> exact ⟨by simp, by simp, by simp, by simp⟩

theorem continuing_process (calls : ProcessCalls op) : ContinuingOp op := by
  cases calls with
  | scope ends => exact continuing_scope ends
  | _ => exact ⟨by simp, by simp, by simp, by simp⟩

theorem continuing_get (calls : GetCalls op) : ContinuingOp op := by
  cases calls with
  | scope ends => exact continuing_scope ends
  | _ => exact ⟨by simp, by simp, by simp, by simp⟩

theorem continuing_deliver (calls : DeliverCalls op) : ContinuingOp op := by
  cases calls with
  | scope ends => exact continuing_scope ends
  | _ => exact ⟨by simp, by simp, by simp, by simp⟩

theorem continuing_outbox (calls : OutboxCalls op) : ContinuingOp op := by
  cases calls with
  | scope ends => exact continuing_scope ends
  | _ => exact ⟨by simp, by simp, by simp, by simp⟩

theorem continuing_consume (calls : ConsumeCalls op) : ContinuingOp op := by
  cases calls with
  | process calls => exact continuing_process calls
  | _ => exact ⟨by simp, by simp, by simp, by simp⟩

end Properties
end Payments
