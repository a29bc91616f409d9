import Payments.Properties.DeliveryRows
import Payments.Properties.PaymentDiscipline

namespace Payments
namespace Properties

open Concurrency Domain Infrastructure Application Payments.System
open DeliverDueWebhooksHandler (recorded)

/-!
# The discipline of webhook deliveries

A batch locks the deliveries it has claimed, sends them, and installs for each
send that has been answered what this answer makes of the version it has
locked.  `Committable` says this of one delivery of a transaction that is about
to commit; it is all that the invariant of the committed rows needs.  Which
deliveries are being sent, and by whom, is read off the tasks: as long as no
send ends with an exception that the client does not convert, every task
belongs to a row that its run has locked.
-/

variable {policy : RetryPolicy} {world after : World} {run other : RunId} {op : Op} {key : UUID}

/-! ## Sends and locks -/

/-- The answers that the tasks have got for one delivery. -/
def answers (key : UUID) (tasks : List SendTask) : List ClientOutcome :=
  tasks.filterMap (fun task =>
    if task.delivery.id = key then
      match task.state with
      | .finished outcome => outcome
      | _ => none
    else none)

/-- The sends of the run are those of its tasks. -/
structure TracksSends (run : RunId) (world : World) : Prop where
  nodup : ((world.sending run).tasks.map (fun task => task.delivery.id)).Nodup
  sends : forall key, sends_of run key world.trace = answers key (world.sending run).tasks

/-- The run has locked the row as it is committed. -/
structure Locks (run : RunId) (row : WebhookDeliveryModel) (world : World) : Prop where
  committed : (world.cell .webhook_deliveries row.id).committed = some row
  locked : (world.cell .webhook_deliveries row.id).lock = some (run, some row)
  pending : row.status = .PENDING

/-- By a clock reading of the run the row may be sent. -/
def DueFor (run : RunId) (row : WebhookDeliveryModel) (world : World) : Prop :=
  Exists fun now => .clock_read now ∈ world.own run ∧ retry_is_due row.next_retry_at now = true

/-- The delivery of the task is the row its run has locked. -/
def Guarded (run : RunId) (task : SendTask) (world : World) : Prop :=
  Exists fun row => row.to_domain = task.delivery ∧ Locks run row world ∧ DueFor run row world

/-- What is posted for a delivery describes it. -/
def Described (request : WebhookDelivery × Option WebhookRequest) : Prop :=
  forall posted, request.2 = some posted -> Exists fun payment => posted = webhook_request payment request.1

/-- No send has ended with an exception that the client does not convert. -/
def Converted (trace : Trace) : Prop :=
  forall worker id message, (.environment, .send_finished worker id (.other_error message)) ∉ trace

/-- The run has updated the delivery, at the time that its clock had just shown. -/
def Registered (run : RunId) (delivery : WebhookDelivery) (world : World) : Prop :=
  Exists fun recent => Exists fun rows => Exists fun earlier =>
    world.own run = recent ++ .updated .webhook_deliveries (.delivery_progress delivery) rows ::
      .clock_read delivery.updated_at :: earlier

/-! ## What a transaction installs -/

/-- The version that records the answer of the only send. -/
structure Records (policy : RetryPolicy) (run : RunId) (row : WebhookDeliveryModel) (delivery : WebhookDelivery)
    (world : World) : Prop where
  committed : (world.cell .webhook_deliveries row.id).committed = some row
  locked : (world.cell .webhook_deliveries row.id).lock = some (run, some (WebhookDeliveryModel.to_model delivery))
  answered : Exists fun outcome => Exists fun result =>
    sends_of run row.id world.trace = [outcome] ∧ send outcome = .ok result ∧
      recorded row.to_domain result delivery.updated_at policy = .ok delivery
  registered : Registered run delivery world

inductive Committable (policy : RetryPolicy) (run : RunId) (key : UUID) (world : World) : Prop where
  | apart (free : ¬ (world.cell .webhook_deliveries key).HeldBy run) (unsent : sends_of run key world.trace = [])
  | kept (row : WebhookDeliveryModel) (own : row.id = key) (locks : Locks run row world)
      (unsent : sends_of run key world.trace = [])
  | created (row : WebhookDeliveryModel) (created : Created row)
      (vacant : (world.cell .webhook_deliveries key).committed = none)
      (locked : (world.cell .webhook_deliveries key).lock = some (run, some row))
      (unsent : sends_of run key world.trace = [])
  | recorded (row : WebhookDeliveryModel) (own : row.id = key) (delivery : WebhookDelivery)
      (records : Records policy run row delivery world)

structure DeliveryPermits (policy : RetryPolicy) (run : RunId) (op : Op) (world : World) : Prop where
  adding : forall row, op = .add .webhook_deliveries row -> Created row
  selecting : forall query limit, op = .select_for_update .webhook_deliveries query limit ->
    Away .webhook_deliveries run world ∧ (world.sending run).tasks = []
  updating : forall statement, op = .update .webhook_deliveries statement -> (world.sending run).tasks = []
  unclaimed : forall query limit statement, op ≠ .update_claimable .webhook_deliveries query limit statement
  sending : forall requests concurrency, op = .send_all requests concurrency ->
    (requests.map (fun request => request.1.id)).Nodup ∧ (forall key, sends_of run key world.trace = []) ∧
      forall request, request ∈ requests -> Described request ∧ Exists fun row : WebhookDeliveryModel =>
        row.to_domain = request.1 ∧ Locks run row world ∧ DueFor run row world
  committing : op = .commit -> (world.sending run).tasks = [] ∧ forall key, Committable policy run key world
  ending : op = .rollback ∨ op = .close -> Converted world.trace -> (world.sending run).tasks = []

structure DeliveriesKept (policy : RetryPolicy) (world : World) : Prop where
  keyed : World.Keyed world
  versioned : Versioned world
  stored : Stored world
  booked : forall key row, (world.cell .webhook_deliveries key).committed = some row ->
    Booked policy row (committed_sends key world.trace)
  blank : forall key, (world.cell .webhook_deliveries key).committed = none -> committed_sends key world.trace = []
  registered : forall key row, (world.cell .webhook_deliveries key).committed = some row ->
    committed_sends key world.trace ≠ [] -> Exists fun run => Registered run row.to_domain world
  tracked : forall run, (world.sending run).tasks = [] ∨ TracksSends run world
  described : forall run task, task ∈ (world.sending run).tasks -> Described (task.delivery, task.request)
  guarded : Converted world.trace -> forall run task, task ∈ (world.sending run).tasks -> Guarded run task world

/-- The trace grows, and a delivery that has ended stays as it is. -/
structure DeliveriesEvolve (before after : World) : Prop where
  trace : before.trace <:+ after.trace
  ended : forall key row, (before.cell .webhook_deliveries key).committed = some row -> row.status ≠ .PENDING ->
    (after.cell .webhook_deliveries key).committed = some row

/-- Besides what is out of reach anyway, the sends of a run without tasks stay as they are. -/
structure DeliveryFrame (run : RunId) (before after : World) : Prop where
  untouched : World.Untouched run before after
  sends : (before.sending run).tasks = [] -> forall key, sends_of run key after.trace = sends_of run key before.trace

theorem DeliveriesEvolve.refl (world : World) : DeliveriesEvolve world world :=
  ⟨List.suffix_rfl, fun _ _ same _ => same⟩

theorem DeliveriesEvolve.trans {first second third : World} (before : DeliveriesEvolve first second)
    (after : DeliveriesEvolve second third) : DeliveriesEvolve first third where
  trace := before.trace.trans after.trace
  ended := fun key row same ended => after.ended key row (before.ended key row same ended) ended

theorem tasks_untouched (untouched : World.Untouched run world after) :
    (after.sending run).tasks = [] <-> (world.sending run).tasks = [] := by
  have tasks := untouched.sending.tasks
  constructor
  · intro empty
    rw [empty] at tasks
    exact List.forall₂_nil_right_iff.mp tasks
  · intro empty
    rw [empty] at tasks
    exact List.forall₂_nil_left_iff.mp tasks

theorem DeliveryFrame.refl (run : RunId) (world : World) : DeliveryFrame run world world :=
  ⟨World.Untouched.refl run world, fun _ _ => rfl⟩

theorem DeliveryFrame.trans {first second third : World} (before : DeliveryFrame run first second)
    (after : DeliveryFrame run second third) : DeliveryFrame run first third where
  untouched := before.untouched.trans after.untouched
  sends := by
    intro empty key
    rw [after.sends ((tasks_untouched before.untouched).mpr empty) key, before.sends empty key]

/-! ## Sends on the trace -/

theorem Converted.mono {trace later : Trace} (converted : Converted later) (grown : trace <:+ later) :
    Converted trace :=
  fun worker id message listed => converted worker id message (grown.subset listed)

/-- An operation of a run is no end of a send. -/
theorem sends_executed {answer : Except Error op.Answer} (executed : World.Executed run world op after answer) :
    sends_of other key after.trace = sends_of other key world.trace := by
  rcases executed.trace with same | ⟨event, _, same⟩
  · rw [same]
  · rw [same, sends_of_run]

theorem sends_crash : sends_of other key (world.crash run).trace = sends_of other key world.trace := by
  rw [World.crash_trace, sends_of_run]

theorem committed_sends_crash : committed_sends key (world.crash run).trace = committed_sends key world.trace := by
  rw [World.crash_trace, committed_sends_cons (fun record same => by cases same)]

theorem committed_sends_occurred (occurred : World.Occurred world after) :
    committed_sends key after.trace = committed_sends key world.trace := by
  rcases occurred.trace with same | ⟨event, _, same⟩
  · rw [same]
  · rw [same, committed_sends_environment]

/-- Only a commit adds to what is committed. -/
theorem committed_sends_executed {answer : Except Error op.Answer}
    (executed : World.Executed run world op after answer) (not_commit : op ≠ .commit) :
    committed_sends key after.trace = committed_sends key world.trace := by
  rcases executed.trace with same | ⟨event, records, same⟩
  · rw [same]
  · rw [same, committed_sends_cons]
    rintro record rfl
    cases records
    exact not_commit rfl

theorem committed_sends_commit : committed_sends key (world.commit run).trace =
    sends_of run key world.trace ++ committed_sends key world.trace :=
  rfl

/-! ## What other runs leave alone -/

theorem Locks.stable {row : WebhookDeliveryModel} (locks : Locks run row world)
    (untouched : World.Untouched run world after) : Locks run row after := by
  have same : after.cell .webhook_deliveries row.id = world.cell .webhook_deliveries row.id :=
    untouched.tables .webhook_deliveries row.id (.inl ⟨_, locks.locked⟩)
  exact ⟨same ▸ locks.committed, same ▸ locks.locked, locks.pending⟩

theorem DueFor.mono {row : WebhookDeliveryModel} (due : DueFor run row world)
    (grown : world.own run ⊆ after.own run) : DueFor run row after := by
  rcases due with ⟨now, read, ready⟩
  exact ⟨now, grown read, ready⟩

theorem Registered.mono {delivery : WebhookDelivery} (registered : Registered run delivery world)
    (grown : Exists fun newer => after.own run = newer ++ world.own run) : Registered run delivery after := by
  rcases registered with ⟨recent, rows, earlier, own⟩
  rcases grown with ⟨newer, same⟩
  exact ⟨newer ++ recent, rows, earlier, by rw [same, own, List.append_assoc]⟩

theorem own_grows (grown : world.trace <:+ after.trace) (run : RunId) :
    Exists fun newer => after.own run = newer ++ world.own run := by
  rcases grown with ⟨newer, same⟩
  refine ⟨(newer.filter (fun entry => decide (entry.1 = .run run))).map Prod.snd, ?_⟩
  rw [World.own, ← same, List.filter_append, List.map_append]
  rfl

theorem Guarded.stable {task task' : SendTask} (guarded : Guarded run task world)
    (untouched : World.Untouched run world after) (delivery : task'.delivery = task.delivery) :
    Guarded run task' after := by
  rcases guarded with ⟨row, same, locks, due⟩
  exact ⟨row, same.trans delivery.symm, locks.stable untouched, due.mono (untouched.own ▸ List.Subset.refl _)⟩

/-- The tasks of a run are the same deliveries later. -/
theorem task_untouched (untouched : World.Untouched run world after) {task : SendTask}
    (listed : task ∈ (after.sending run).tasks) :
    Exists fun before => before ∈ (world.sending run).tasks ∧ task.delivery = before.delivery ∧
      task.request = before.request := by
  have general : forall {first second : List SendTask}, List.Forall₂ SendTask.Advances first second ->
      task ∈ second -> Exists fun before => before ∈ first ∧ task.delivery = before.delivery ∧
        task.request = before.request := by
    intro first second advances
    induction advances with
    | nil => exact fun listed => by cases listed
    | cons head _ inductionHypothesis =>
        intro listed
        rcases List.mem_cons.mp listed with rfl | later
        · exact ⟨_, List.mem_cons_self, head.delivery, head.request⟩
        · rcases inductionHypothesis later with ⟨before, earlier, same⟩
          exact ⟨before, List.mem_cons_of_mem _ earlier, same⟩
  exact general untouched.sending.tasks listed

/-! ## A commit -/

namespace Committable

theorem booked (kept : DeliveriesKept policy world) (committable : Committable policy run key world)
    {row : WebhookDeliveryModel} (installed : ((world.commit run).cell .webhook_deliveries key).committed = some row) :
    Booked policy row (committed_sends key (world.commit run).trace) := by
  rw [committed_sends_commit]
  have cell : (world.commit run).cell .webhook_deliveries key =
      (world.cell .webhook_deliveries key).commit run := rfl
  rw [cell] at installed
  cases committable with
  | apart free unsent =>
      rw [Cell.commit_of_not_heldBy free] at installed
      rw [unsent]
      exact kept.booked key row installed
  | kept found own locks unsent =>
      subst own
      rw [Cell.commit_of_lock locks.locked] at installed
      cases installed
      rw [unsent]
      exact kept.booked _ row locks.committed
  | created found created vacant locked unsent =>
      rw [Cell.commit_of_lock locked] at installed
      cases installed
      rw [unsent, kept.blank key vacant]
      exact created.booked
  | recorded found own delivery records =>
      subst own
      rw [Cell.commit_of_lock records.locked] at installed
      cases installed
      rcases records.answered with ⟨outcome, result, sent, answered, recording⟩
      rw [sent]
      exact (kept.booked _ found records.committed).recorded answered recording

theorem blank (kept : DeliveriesKept policy world) (committable : Committable policy run key world)
    (vacant : ((world.commit run).cell .webhook_deliveries key).committed = none) :
    committed_sends key (world.commit run).trace = [] := by
  rw [committed_sends_commit]
  have cell : (world.commit run).cell .webhook_deliveries key =
      (world.cell .webhook_deliveries key).commit run := rfl
  rw [cell] at vacant
  cases committable with
  | apart free unsent =>
      rw [Cell.commit_of_not_heldBy free] at vacant
      rw [unsent, kept.blank key vacant]
      rfl
  | kept found own locks unsent =>
      subst own
      rw [Cell.commit_of_lock locks.locked] at vacant
      cases vacant
  | created found created missing locked unsent =>
      rw [Cell.commit_of_lock locked] at vacant
      cases vacant
  | recorded found own delivery records =>
      subst own
      rw [Cell.commit_of_lock records.locked] at vacant
      cases vacant

theorem registered (kept : DeliveriesKept policy world) (committable : Committable policy run key world)
    {row : WebhookDeliveryModel} (installed : ((world.commit run).cell .webhook_deliveries key).committed = some row)
    (sent : committed_sends key (world.commit run).trace ≠ []) :
    Exists fun run' => Registered run' row.to_domain (world.commit run) := by
  rw [committed_sends_commit] at sent
  have later : forall {run' delivery}, Registered run' delivery world -> Registered run' delivery (world.commit run) :=
    fun registered => registered.mono (own_grows (List.suffix_cons _ _) _)
  have cell : (world.commit run).cell .webhook_deliveries key =
      (world.cell .webhook_deliveries key).commit run := rfl
  rw [cell] at installed
  cases committable with
  | apart free unsent =>
      rw [Cell.commit_of_not_heldBy free] at installed
      rw [unsent] at sent
      rcases kept.registered key row installed sent with ⟨run', registered⟩
      exact ⟨run', later registered⟩
  | kept found own locks unsent =>
      subst own
      rw [Cell.commit_of_lock locks.locked] at installed
      cases installed
      rw [unsent] at sent
      rcases kept.registered _ row locks.committed sent with ⟨run', registered⟩
      exact ⟨run', later registered⟩
  | created found created vacant locked unsent =>
      rw [unsent, kept.blank key vacant] at sent
      exact absurd rfl sent
  | recorded found own delivery records =>
      subst own
      rw [Cell.commit_of_lock records.locked] at installed
      cases installed
      exact ⟨run, later records.registered⟩

/-- A delivery that has ended stays as it is. -/
theorem ended (committable : Committable policy run key world) {row : WebhookDeliveryModel}
    (before : (world.cell .webhook_deliveries key).committed = some row) (ended : row.status ≠ .PENDING) :
    ((world.commit run).cell .webhook_deliveries key).committed = some row := by
  have cell : (world.commit run).cell .webhook_deliveries key =
      (world.cell .webhook_deliveries key).commit run := rfl
  rw [cell]
  cases committable with
  | apart free unsent => rwa [Cell.commit_of_not_heldBy free]
  | kept found own locks unsent =>
      subst own
      rw [locks.committed] at before
      cases before
      exact absurd locks.pending ended
  | created found created vacant locked unsent =>
      rw [vacant] at before
      cases before
  | recorded found own delivery records =>
      subst own
      rw [records.committed] at before
      cases before
      rcases records.answered with ⟨outcome, result, _, _, recording⟩
      exact absurd (recorded_cases recording).1 ended

end Committable

/-! ## The tasks -/

/-- How an operation changes the tasks of its run. -/
inductive SendingChange (run : RunId) (op : Op) (world after : World) : Prop where
  | same (same : after.sending = world.sending)
  | started (requests : List (WebhookDelivery × Option WebhookRequest)) (concurrency : Int)
      (operation : op = .send_all requests concurrency) (same : after = world.set_sending run ⟨concurrency,
        requests.map (fun request =>
          ⟨request.1, request.2, if request.2.isSome then .waiting else .finished none⟩)⟩)
  | ended (same : after.sending = (world.set_sending run Gather.none).sending)

theorem sending_executed {answer : Except Error op.Answer} (executed : World.Executed run world op after answer) :
    SendingChange run op world after := by
  cases executed with
  | sends_started requests concurrency => exact .started requests concurrency rfl rfl
  | sends_abandoned => exact .ended rfl
  | sent results quiet ended => exact .ended rfl
  | _ => exact .same rfl

theorem SendingChange.apart (change : SendingChange run op world after) (different : other ≠ run) :
    after.sending other = world.sending other := by
  cases change with
  | same same => rw [same]
  | started requests concurrency operation same => exact same ▸ Function.update_of_ne different _ _
  | ended same => exact same ▸ Function.update_of_ne different _ _

theorem tasks_set_sending (gather : Gather SendTask) :
    ((world.set_sending run gather).sending run).tasks = gather.tasks := by
  simp only [World.set_sending, Function.update_self]

theorem sending_crash : (world.crash run).sending = Function.update world.sending run Gather.none := by
  unfold World.crash World.requeue
  split <;> rfl

theorem answers_nil_of_unfinished {tasks : List SendTask}
    (unanswered : forall task, task ∈ tasks -> forall outcome, task.state ≠ .finished (some outcome)) (key : UUID) :
    answers key tasks = [] := by
  rw [answers, List.filterMap_eq_nil_iff]
  intro task listed
  split
  · split
    · next outcome state =>
        cases outcome with
        | none => rfl
        | some found => exact absurd state (unanswered task listed found)
    · rfl
  · rfl

theorem answers_nil_of_absent {tasks : List SendTask} (absent : key ∉ tasks.map (fun task => task.delivery.id)) :
    answers key tasks = [] := by
  rw [answers, List.filterMap_eq_nil_iff]
  intro task listed
  exact if_neg (fun same => absent (List.mem_map.mpr ⟨task, listed, same⟩))

/-- A task is the only one of its delivery. -/
theorem answers_at {tasks : List SendTask} (nodup : (tasks.map (fun task => task.delivery.id)).Nodup) {index : Nat}
    {task : SendTask} (found : tasks[index]? = some task) :
    answers task.delivery.id tasks = (match task.state with
      | .finished outcome => outcome
      | _ => none : Option ClientOutcome).toList := by
  induction tasks generalizing index with
  | nil => cases found
  | cons head tail inductionHypothesis =>
      rw [List.map_cons, List.nodup_cons] at nodup
      cases index with
      | zero =>
          cases found
          have rest : answers task.delivery.id tail = [] := answers_nil_of_absent nodup.1
          rw [answers] at rest ⊢
          rw [List.filterMap_cons, if_pos rfl, rest]
          split
          · next none => rw [none]; rfl
          · next some => rw [some]; rfl
      | succ index =>
          have listed : task ∈ tail := List.mem_of_getElem? found
          have different : head.delivery.id ≠ task.delivery.id :=
            fun same => nodup.1 (same ▸ List.mem_map.mpr ⟨task, listed, rfl⟩)
          have rest := inductionHypothesis nodup.2 found
          rw [answers] at rest ⊢
          rw [List.filterMap_cons, if_neg different]
          exact rest

theorem answers_set {tasks : List SendTask} {index : Nat} {old new : SendTask} (found : tasks[index]? = some old)
    (delivery : new.delivery = old.delivery) (different : old.delivery.id ≠ key) :
    answers key (tasks.set index new) = answers key tasks := by
  induction tasks generalizing index with
  | nil => cases found
  | cons head tail inductionHypothesis =>
      cases index with
      | zero =>
          cases found
          rw [List.set_cons_zero, answers, answers, List.filterMap_cons, List.filterMap_cons, if_neg different,
            if_neg (delivery ▸ different)]
      | succ index =>
          have rest := inductionHypothesis found
          rw [answers, answers] at rest
          rw [List.set_cons_succ, answers, answers, List.filterMap_cons, List.filterMap_cons, rest]

theorem ids_set {tasks : List SendTask} {index : Nat} {old new : SendTask} (found : tasks[index]? = some old)
    (delivery : new.delivery = old.delivery) :
    (tasks.set index new).map (fun task => task.delivery.id) = tasks.map (fun task => task.delivery.id) := by
  rw [List.map_set, delivery]
  rcases List.getElem?_eq_some_iff.mp found with ⟨within, same⟩
  have inside : index < (tasks.map (fun task => task.delivery.id)).length := by rwa [List.length_map]
  have unchanged : old.delivery.id = (tasks.map (fun task => task.delivery.id))[index] := by
    rw [List.getElem_map, same]
  rw [unchanged, List.set_getElem_self]

/-- One of the tasks goes on, and what it answers is on the trace. -/
theorem TracksSends.set {index : Nat} {old new : SendTask} {outcomes : List ClientOutcome}
    (tracks : TracksSends run world) (found : (world.sending run).tasks[index]? = some old)
    (delivery : new.delivery = old.delivery)
    (tasks : (after.sending run).tasks = (world.sending run).tasks.set index new)
    (unfinished : old.state.outcome = none)
    (answered : (match new.state with
      | .finished outcome => outcome
      | _ => none : Option ClientOutcome).toList = outcomes)
    (sends : forall key, sends_of run key after.trace =
      if old.delivery.id = key then outcomes ++ sends_of run key world.trace else sends_of run key world.trace) :
    TracksSends run after := by
  have ids := ids_set found delivery
  refine ⟨by rw [tasks, ids]; exact tracks.nodup, fun key => ?_⟩
  rw [sends key, tasks]
  by_cases same : old.delivery.id = key
  · subst same
    have placed : ((world.sending run).tasks.set index new)[index]? = some new := by
      rw [List.getElem?_set_self (List.getElem?_eq_some_iff.mp found).1]
    have later := answers_at (ids ▸ tracks.nodup) placed
    rw [delivery] at later
    have earlier := answers_at tracks.nodup found
    have none : sends_of run old.delivery.id world.trace = [] := by
      rw [tracks.sends, earlier]
      cases state : old.state with
      | finished outcome =>
          rw [state] at unfinished
          cases unfinished
      | _ => rfl
    rw [if_pos rfl, none, List.append_nil, later, answered]
  · rw [if_neg same, answers_set found delivery same]
    exact tracks.sends key

/-! ## Operations keep the discipline -/

/-- What a run has locked stays locked, unless it updates or ends its transaction. -/
theorem Locks.executed {answer : Except Error op.Answer} {row : WebhookDeliveryModel} (locks : Locks run row world)
    (permits : DeliveryPermits policy run op world) (busy : (world.sending run).tasks ≠ [])
    (converted : Converted world.trace) (executed : World.Executed run world op after answer) : Locks run row after := by
  have same : after.cell .webhook_deliveries row.id = world.cell .webhook_deliveries row.id := by
    cases executed.cell .webhook_deliveries row.id with
    | kept same => exact same
    | locked query limit found operation => exact absurd (permits.selecting query limit operation).2 busy
    | updated statement time found operation => exact absurd (permits.updating statement operation) busy
    | claimed query limit statement time found operation => exact absurd operation (permits.unclaimed query limit statement)
    | deleted cutoff found operation table => cases table
    | added found operation own vacant =>
        have locked := locks.locked
        rw [vacant] at locked
        cases locked
    | inserted found operation table => cases table
    | committed operation => exact absurd (permits.committing operation).1 busy
    | released operation => exact absurd (permits.ending operation converted) busy
  exact ⟨same ▸ locks.committed, same ▸ locks.locked, locks.pending⟩

theorem tasks_guarded {answer : Except Error op.Answer} (kept : DeliveriesKept policy world)
    (permits : DeliveryPermits policy run op world) (executed : World.Executed run world op after answer)
    (converted : Converted after.trace) {task : SendTask} (listed : task ∈ (after.sending other).tasks) :
    Guarded other task after := by
  have before : Converted world.trace := converted.mono (World.trace_executed executed)
  by_cases mine : other = run
  · subst mine
    cases sending_executed executed with
    | same same =>
        rw [same] at listed
        rcases kept.guarded before other task listed with ⟨row, delivery, locks, due⟩
        have busy : (world.sending other).tasks ≠ [] := List.ne_nil_of_mem listed
        rcases own_grows (World.trace_executed executed) other with ⟨newer, own⟩
        exact ⟨row, delivery, locks.executed permits busy before executed, due.mono (own ▸ List.subset_append_right _ _)⟩
    | started requests concurrency operation same =>
        have sending : (after.sending other).tasks = requests.map (fun request =>
            ⟨request.1, request.2, if request.2.isSome then .waiting else .finished none⟩) := by
          rw [same]
          exact tasks_set_sending _
        rw [sending] at listed
        rcases List.mem_map.mp listed with ⟨request, requested, rfl⟩
        rcases (permits.sending requests concurrency operation).2.2 request requested with
          ⟨_, row, delivery, locks, due⟩
        refine ⟨row, delivery, ?_, ?_⟩
        · rw [same]
          exact ⟨locks.committed, locks.locked, locks.pending⟩
        · rw [same]
          exact due
    | ended same =>
        have sending : (after.sending other).tasks = [] := by
          rw [same]
          exact tasks_set_sending _
        rw [sending] at listed
        cases listed
  · have same := (sending_executed executed).apart mine
    exact (kept.guarded before other task (same ▸ listed)).stable (executed.untouched mine) rfl

theorem tracked_executed {answer : Except Error op.Answer} (kept : DeliveriesKept policy world)
    (permits : DeliveryPermits policy run op world) (executed : World.Executed run world op after answer)
    (other : RunId) : (after.sending other).tasks = [] ∨ TracksSends other after := by
  have same_sends : after.sending other = world.sending other ->
      (after.sending other).tasks = [] ∨ TracksSends other after := by
    intro same
    rw [same]
    refine (kept.tracked other).imp_right (fun tracks => ⟨same ▸ tracks.nodup, fun key => ?_⟩)
    rw [sends_executed executed, same]
    exact tracks.sends key
  by_cases mine : other = run
  · subst mine
    cases sending_executed executed with
    | same same => exact same_sends (congrFun same other)
    | started requests concurrency operation same =>
        rcases permits.sending requests concurrency operation with ⟨nodup, unsent, _⟩
        have sending : (after.sending other).tasks = requests.map (fun request =>
            ⟨request.1, request.2, if request.2.isSome then .waiting else .finished none⟩) := by
          rw [same]
          exact tasks_set_sending _
        refine .inr ⟨?_, fun key => ?_⟩
        · rw [sending, List.map_map]
          exact nodup
        · rw [sends_executed executed, unsent key, sending, answers_nil_of_unfinished]
          intro task listed outcome
          rcases List.mem_map.mp listed with ⟨request, _, rfl⟩
          dsimp only
          split
          · exact fun impossible => by cases impossible
          · exact fun impossible => by cases impossible
    | ended same =>
        refine .inl ?_
        rw [same]
        exact tasks_set_sending _
  · exact same_sends ((sending_executed executed).apart mine)

/-- What a task posts describes its delivery. -/
theorem tasks_described {answer : Except Error op.Answer} (kept : DeliveriesKept policy world)
    (permits : DeliveryPermits policy run op world) (executed : World.Executed run world op after answer)
    {task : SendTask} (listed : task ∈ (after.sending other).tasks) : Described (task.delivery, task.request) := by
  by_cases mine : other = run
  · subst mine
    cases sending_executed executed with
    | same same =>
        rw [same] at listed
        exact kept.described other task listed
    | started requests concurrency operation same =>
        have sending : (after.sending other).tasks = requests.map (fun request =>
            ⟨request.1, request.2, if request.2.isSome then .waiting else .finished none⟩) := by
          rw [same]
          exact tasks_set_sending _
        rw [sending] at listed
        rcases List.mem_map.mp listed with ⟨request, requested, rfl⟩
        exact ((permits.sending requests concurrency operation).2.2 request requested).1
    | ended same =>
        have sending : (after.sending other).tasks = [] := by
          rw [same]
          exact tasks_set_sending _
        rw [sending] at listed
        cases listed
  · rw [(sending_executed executed).apart mine] at listed
    exact kept.described other task listed

theorem DeliveriesKept.executed {answer : Except Error op.Answer} (kept : DeliveriesKept policy world)
    (permits : DeliveryPermits policy run op world) (executed : World.Executed run world op after answer) :
    DeliveriesKept policy after where
  keyed := kept.keyed.executed executed
  versioned := kept.versioned.executed executed
  stored := kept.stored.executed permits.unclaimed executed
  booked := by
    intro key row committed
    by_cases commits : op = .commit
    · subst commits
      rcases executed.commit_cases with rfl | rfl
      · exact kept.booked key row committed
      · exact ((permits.committing rfl).2 key).booked kept committed
    · rw [committed_sends_executed executed commits]
      rw [(executed.cell .webhook_deliveries key).committed_same commits] at committed
      exact kept.booked key row committed
  blank := by
    intro key vacant
    by_cases commits : op = .commit
    · subst commits
      rcases executed.commit_cases with rfl | rfl
      · exact kept.blank key vacant
      · exact ((permits.committing rfl).2 key).blank kept vacant
    · rw [committed_sends_executed executed commits]
      rw [(executed.cell .webhook_deliveries key).committed_same commits] at vacant
      exact kept.blank key vacant
  registered := by
    intro key row committed sent
    by_cases commits : op = .commit
    · subst commits
      rcases executed.commit_cases with rfl | rfl
      · exact kept.registered key row committed sent
      · exact ((permits.committing rfl).2 key).registered kept committed sent
    · rw [committed_sends_executed executed commits] at sent
      rw [(executed.cell .webhook_deliveries key).committed_same commits] at committed
      rcases kept.registered key row committed sent with ⟨run', registered⟩
      exact ⟨run', registered.mono (own_grows (World.trace_executed executed) run')⟩
  tracked := tracked_executed kept permits executed
  described := fun _ _ listed => tasks_described kept permits executed listed
  guarded := fun converted _ _ listed => tasks_guarded kept permits executed converted listed

theorem DeliveriesEvolve.executed {answer : Except Error op.Answer} (permits : DeliveryPermits policy run op world)
    (executed : World.Executed run world op after answer) : DeliveriesEvolve world after where
  trace := World.trace_executed executed
  ended := by
    intro key row committed ended
    by_cases commits : op = .commit
    · subst commits
      rcases executed.commit_cases with rfl | rfl
      · exact committed
      · exact ((permits.committing rfl).2 key).ended committed ended
    · rw [(executed.cell .webhook_deliveries key).committed_same commits]
      exact committed

theorem DeliveryFrame.executed {answer : Except Error op.Answer} (executed : World.Executed run world op after answer)
    (different : other ≠ run) : DeliveryFrame other world after :=
  ⟨executed.untouched different, fun _ _ => sends_executed executed⟩

theorem DeliveriesKept.crash (kept : DeliveriesKept policy world) : DeliveriesKept policy (world.crash run) where
  keyed := kept.keyed.crash
  versioned := kept.versioned.crash
  stored := kept.stored.crash
  booked := by
    intro key row committed
    rw [World.crash_cell, Cell.rollback_committed] at committed
    rw [committed_sends_crash]
    exact kept.booked key row committed
  blank := by
    intro key vacant
    rw [World.crash_cell, Cell.rollback_committed] at vacant
    rw [committed_sends_crash]
    exact kept.blank key vacant
  registered := by
    intro key row committed sent
    rw [World.crash_cell, Cell.rollback_committed] at committed
    rw [committed_sends_crash] at sent
    rcases kept.registered key row committed sent with ⟨run', registered⟩
    exact ⟨run', registered.mono (own_grows World.trace_crash run')⟩
  tracked := by
    intro other
    by_cases mine : other = run
    · subst mine
      exact .inl (by rw [sending_crash, Function.update_self]; rfl)
    · have same : (world.crash run).sending other = world.sending other := by
        rw [sending_crash, Function.update_of_ne mine]
      rw [same]
      refine (kept.tracked other).imp_right (fun tracks => ⟨same ▸ tracks.nodup, fun key => ?_⟩)
      rw [sends_crash, same]
      exact tracks.sends key
  described := by
    intro other task listed
    rw [sending_crash] at listed
    by_cases mine : other = run
    · subst mine
      rw [Function.update_self] at listed
      cases listed
    · rw [Function.update_of_ne mine] at listed
      exact kept.described other task listed
  guarded := by
    intro converted other task listed
    have before : Converted world.trace := converted.mono World.trace_crash
    by_cases mine : other = run
    · subst mine
      rw [sending_crash, Function.update_self] at listed
      cases listed
    · rw [sending_crash, Function.update_of_ne mine] at listed
      exact (kept.guarded before other task listed).stable (World.crash_untouched mine) rfl

theorem DeliveriesEvolve.crash : DeliveriesEvolve world (world.crash run) where
  trace := World.trace_crash
  ended := by
    intro key row committed _
    rw [World.crash_cell, Cell.rollback_committed]
    exact committed

/-! ## The environment -/

theorem tracked_occurred (kept : DeliveriesKept policy world) (occurred : World.Occurred world after) (run : RunId) :
    (after.sending run).tasks = [] ∨ TracksSends run after := by
  have same_sends : after.sending run = world.sending run ->
      (forall key, sends_of run key after.trace = sends_of run key world.trace) ->
      (after.sending run).tasks = [] ∨ TracksSends run after := by
    intro same sends
    rw [same]
    refine (kept.tracked run).imp_right (fun tracks => ⟨same ▸ tracks.nodup, fun key => ?_⟩)
    rw [sends key, same]
    exact tracks.sends key
  have busy : forall {index : Nat} {task : SendTask}, (world.sending run).tasks[index]? = some task ->
      TracksSends run world := by
    intro index task found
    refine (kept.tracked run).resolve_left (fun empty => ?_)
    rw [empty] at found
    cases found
  cases occurred with
  | send_started owner index delivery request found =>
      by_cases mine : run = owner
      · subst mine
        have tasks : ((World.note .environment (.send_called run request) (world.set_send_task run index
            ⟨delivery, some request, .running⟩)).sending run).tasks =
              (world.sending run).tasks.set index ⟨delivery, some request, .running⟩ := tasks_set_sending _
        refine .inr ((busy found).set found ?_ tasks rfl rfl (fun key => ?_))
        · rfl
        · exact (ite_self _).symm
      · exact same_sends (Function.update_of_ne mine _ _) (fun _ => rfl)
  | send_finished owner index delivery request outcome found =>
      by_cases mine : run = owner
      · subst mine
        have tasks : ((World.note .environment (.send_finished run delivery.id outcome) (world.set_send_task run index
            ⟨delivery, request, .finished (some outcome)⟩)).sending run).tasks =
              (world.sending run).tasks.set index ⟨delivery, request, .finished (some outcome)⟩ := tasks_set_sending _
        refine .inr ((busy found).set found ?_ tasks rfl rfl (fun key => ?_))
        · rfl
        · change (if run = run ∧ delivery.id = key then _ else _) = _
          by_cases same : delivery.id = key
          · rw [if_pos ⟨rfl, same⟩, if_pos same]
            rfl
          · rw [if_neg (fun both => same both.2), if_neg same]
            rfl
      · refine same_sends (Function.update_of_ne mine _ _) (fun key => ?_)
        exact if_neg (fun both => mine both.1.symm)
  | publish_started owner index message landed found => exact same_sends rfl (fun _ => rfl)
  | publish_confirmed owner index message found => exact same_sends rfl (fun _ => rfl)
  | publish_failed owner index message landed found => exact same_sends rfl (fun _ => rfl)
  | _ => exact same_sends rfl (fun _ => rfl)

theorem sends_occurred (occurred : World.Occurred world after) (empty : (world.sending run).tasks = []) (key : UUID) :
    sends_of run key after.trace = sends_of run key world.trace := by
  cases occurred with
  | send_finished owner index delivery request outcome found =>
      refine if_neg (fun both => ?_)
      rw [both.1, empty] at found
      cases found
  | _ => rfl

theorem DeliveriesKept.occurred (kept : DeliveriesKept policy world) (occurred : World.Occurred world after) :
    DeliveriesKept policy after where
  keyed := kept.keyed.of_tables occurred.tables
  versioned := kept.versioned.occurred occurred
  stored := kept.stored.of_tables occurred.tables
  booked := by
    intro key row committed
    rw [occurred.cell] at committed
    rw [committed_sends_occurred occurred]
    exact kept.booked key row committed
  blank := by
    intro key vacant
    rw [occurred.cell] at vacant
    rw [committed_sends_occurred occurred]
    exact kept.blank key vacant
  registered := by
    intro key row committed sent
    rw [occurred.cell] at committed
    rw [committed_sends_occurred occurred] at sent
    rcases kept.registered key row committed sent with ⟨run, registered⟩
    exact ⟨run, registered.mono (own_grows (World.trace_occurred occurred) run)⟩
  tracked := tracked_occurred kept occurred
  described := by
    intro run task listed
    rcases task_untouched (occurred.untouched run) listed with ⟨before, earlier, delivery, request⟩
    rw [delivery, request]
    exact kept.described run before earlier
  guarded := by
    intro converted run task listed
    have untouched := occurred.untouched run
    rcases task_untouched untouched listed with ⟨before, earlier, delivery, _⟩
    exact (kept.guarded (converted.mono (World.trace_occurred occurred)) run before earlier).stable untouched delivery

theorem DeliveriesEvolve.occurred (occurred : World.Occurred world after) : DeliveriesEvolve world after where
  trace := World.trace_occurred occurred
  ended := fun _ _ committed _ => (congrArg Cell.committed (occurred.cell _ _)).trans committed

/-- A consumer that is handed its message touches no delivery. -/
theorem DeliveriesKept.delivered (kept : DeliveriesKept policy world) (message : Message) :
    DeliveriesKept policy (deliver run message world) where
  keyed := kept.keyed.of_tables rfl
  versioned := kept.versioned
  stored := kept.stored.of_tables rfl
  booked := kept.booked
  blank := kept.blank
  registered := by
    intro key row committed sent
    rcases kept.registered key row committed sent with ⟨run', registered⟩
    exact ⟨run', registered.mono (own_grows (List.suffix_cons _ _) run')⟩
  tracked := by
    intro other
    refine (kept.tracked other).imp_right (fun tracks => ⟨tracks.nodup, fun key => ?_⟩)
    have same : sends_of other key (deliver run message world).trace = sends_of other key world.trace := sends_of_run
    rw [same]
    exact tracks.sends key
  described := kept.described
  guarded := by
    intro converted other task listed
    rcases kept.guarded (converted.mono (List.suffix_cons _ _)) other task listed with ⟨row, delivery, locks, due⟩
    refine ⟨row, delivery, ⟨locks.committed, locks.locked, locks.pending⟩, due.mono ?_⟩
    have grown : Exists fun newer => (deliver run message world).own other = newer ++ world.own other :=
      own_grows (List.suffix_cons _ _) other
    rcases grown with ⟨newer, own⟩
    exact own ▸ List.subset_append_right _ _

theorem deliveries_kept_initially (policy : RetryPolicy) : DeliveriesKept policy World.initial where
  keyed := World.keyed_initially
  versioned := fun _ => rfl
  stored := by
    intro key row carried
    cases carried with
    | committed same => cases same
    | draft same => cases same
  booked := by
    intro key row committed
    cases committed
  blank := fun _ _ => rfl
  registered := by
    intro key row committed
    cases committed
  tracked := fun _ => .inl rfl
  described := by
    intro run task listed
    cases listed
  guarded := by
    intro _ run task listed
    cases listed

variable {deployment : Deployment}

def delivery_discipline (deployment : Deployment) : Discipline (service deployment) where
  inv := DeliveriesKept deployment.retry_policy
  evolves := DeliveriesEvolve
  frame := DeliveryFrame
  permits := DeliveryPermits deployment.retry_policy
  allowed := fun _ _ => True
  evolves_refl := DeliveriesEvolve.refl
  evolves_trans := DeliveriesEvolve.trans
  frame_refl := DeliveryFrame.refl
  frame_trans := DeliveryFrame.trans

theorem deliveries_upheld (deployment : Deployment) : (delivery_discipline deployment).Upheld World.initial where
  initially := deliveries_kept_initially _
  starts := by
    intro run job world after kept started _
    rcases start_cases started with rfl | ⟨settings, message, _, _, rfl⟩
    · exact ⟨kept, DeliveriesEvolve.refl after, fun other _ => DeliveryFrame.refl other after⟩
    · refine ⟨kept.delivered message, ⟨List.suffix_cons _ _, fun _ _ same _ => same⟩, fun other different => ?_⟩
      exact ⟨untouched_deliver different, fun _ _ => rfl⟩
  operations := by
    intro run op choice world after answer kept permits ran _
    have executed := World.exec_executed ran
    exact ⟨kept.executed permits executed, DeliveriesEvolve.executed permits executed,
      fun other different => DeliveryFrame.executed executed different⟩
  crashes := by
    intro run world kept _
    exact ⟨kept.crash, DeliveriesEvolve.crash,
      fun other different => ⟨World.crash_untouched different, fun _ _ => sends_crash⟩⟩
  environment := by
    intro event world after kept happened _
    have occurred := World.happen_occurred happened
    exact ⟨kept.occurred occurred, DeliveriesEvolve.occurred occurred,
      fun run => ⟨occurred.untouched run, fun empty key => sends_occurred occurred empty key⟩⟩

end Properties
end Payments
