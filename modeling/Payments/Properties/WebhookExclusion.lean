import Payments.Properties.WebhookRetries

namespace Payments
namespace Properties

open Concurrency Domain Infrastructure Application Payments.System
open DeliverDueWebhooksHandler (recorded)

/-!
# Who sends a webhook

A delivery is sent by the batch that has locked its row, and the batch holds
the row until all of its sends have ended.  An exception that the client does
not convert breaks this: the batch rolls back and leaves its other sends
behind.  As long as there is none, every send is one of a pending delivery that
is due, and no batch overwrites a result it has not loaded.  The transaction of
a batch is ended by the batch only: no connection is dropped by the server.
-/

variable {deployment : Deployment} {policy : RetryPolicy} {world after : World} {run : RunId} {key : UUID}

/-! ## What the history justifies -/

/-- The delivery of the request is pending, and by a clock reading of the run it may be sent. -/
def SendDue (run : RunId) (request : WebhookRequest) (earlier : Trace) : Prop :=
  Exists fun row => last_version request.x_event_id earlier = some row ∧ row.status = .PENDING ∧
    Exists fun now => (.run run, .clock_read now) ∈ earlier ∧ retry_is_due row.next_retry_at now = true

/-- What a run may install for a delivery: a new row, the version that is
committed, or what the answer of its own send makes of this version. -/
inductive Justified (policy : RetryPolicy) (run : RunId) (key : UUID) (earlier : Trace) :
    Option WebhookDeliveryModel -> Prop where
  | created (row : WebhookDeliveryModel) (created : Created row) (vacant : last_version key earlier = none) :
      Justified policy run key earlier (some row)
  | kept (row : WebhookDeliveryModel) (committed : last_version key earlier = some row) :
      Justified policy run key earlier (some row)
  | recorded (row later : WebhookDeliveryModel) (outcome : ClientOutcome) (result : WebhookSendResult)
      (committed : last_version key earlier = some row) (sent : sends_of run key earlier = [outcome])
      (answered : send outcome = .ok result)
      (computed : recorded row.to_domain result later.updated_at policy = .ok later.to_domain) :
      Justified policy run key earlier (some later)

structure DeliveryEntry (policy : RetryPolicy) (entry : Actor × Event) (earlier : Trace) : Prop where
  sending : forall run request, entry = (.environment, .send_called run request) -> Converted earlier ->
    SendDue run request earlier
  committing : forall run record, entry = (.run run, .committed record) -> forall key draft,
    (key, draft) ∈ record .webhook_deliveries -> Justified policy run key earlier draft

theorem Guarded.send_due {task : SendTask} {request : WebhookRequest} (guarded : Guarded run task world)
    (versioned : Versioned world) (same : request.x_event_id = task.delivery.id) : SendDue run request world.trace := by
  rcases guarded with ⟨row, delivery, locks, now, read, ready⟩
  have id : request.x_event_id = row.id := by
    rw [same, ← delivery]
    rfl
  refine ⟨row, ?_, locks.pending, now, own_mem.mp read, ready⟩
  rw [id, ← versioned row.id]
  exact locks.committed

theorem Committable.justified {draft : Option WebhookDeliveryModel} (committable : Committable policy run key world)
    (versioned : Versioned world) (locked : (world.cell .webhook_deliveries key).lock = some (run, draft)) :
    Justified policy run key world.trace draft := by
  cases committable with
  | apart free unsent => exact absurd ⟨draft, locked⟩ free
  | kept row own locks unsent =>
      subst own
      rw [locks.locked] at locked
      cases locked
      exact .kept row ((versioned row.id).symm.trans locks.committed)
  | created row created vacant same unsent =>
      rw [same] at locked
      cases locked
      exact .created row created ((versioned key).symm.trans vacant)
  | recorded row own delivery records =>
      subst own
      rw [records.locked] at locked
      cases locked
      rcases records.answered with ⟨outcome, result, sent, answered, computed⟩
      exact .recorded row _ outcome result ((versioned row.id).symm.trans records.committed) sent answered computed

/-- Whoever starts a send has a task for it. -/
theorem task_of_send {request : WebhookRequest} (occurred : World.Occurred world after)
    (noted : after.trace = (.environment, .send_called run request) :: world.trace) :
    Exists fun task => task ∈ (world.sending run).tasks ∧ task.request = some request := by
  cases occurred with
  | send_started owner index delivery posted found =>
      cases noted
      exact ⟨_, List.mem_of_getElem? found, rfl⟩
  | publish_started owner index message landed found => cases noted
  | publish_confirmed owner index message found => cases noted
  | publish_failed owner index message landed found => cases noted
  | send_finished owner index delivery posted outcome found => cases noted
  | _ => exact absurd noted.symm (List.cons_ne_self _ _)

/-- Every send and every commit of a run is justified by what has happened before. -/
theorem webhook_history {state : (service deployment).State}
    (reached : Machine.Reachable (fun _ _ => True) World.initial state) :
    Along (DeliveryEntry deployment.retry_policy) state.shared.trace := by
  refine reachable_along ?_ ?_ ?_ ?_ reached
  · exact fun run message earlier => ⟨by simp, by simp⟩
  · exact fun run earlier => ⟨by simp, by simp⟩
  · intro state event after earlier occurred noted
    have kept := (delivery_verified deployment).invariant earlier
    refine ⟨fun run request same converted => ?_, by simp⟩
    cases same
    rcases task_of_send occurred noted with ⟨task, listed, posted⟩
    rcases kept.described run task listed request posted with ⟨payment, described⟩
    exact (kept.guarded converted run task listed).send_due kept.versioned (described ▸ rfl)
  · intro state run op event earlier pending records
    rcases Machine.State.running_of_pending pending with ⟨job, next, running⟩
    refine ⟨by simp, fun worker record same key draft listed => ?_⟩
    cases same
    cases records with
    | committed =>
        have permits := (delivery_verified deployment).permitted earlier running
        have versioned := ((delivery_verified deployment).invariant earlier).versioned
        exact ((permits.committing rfl).2 key).justified versioned (World.mem_record.mp listed)

/-- A delivery that has ended keeps its version. -/
theorem ended_version_stays {trace past : Trace} (along : Along (DeliveryEntry policy) trace) (older : past <:+ trace)
    {row : WebhookDeliveryModel} (version : last_version key past = some row) (ended : row.status ≠ .PENDING) :
    last_version key trace = some row := by
  induction trace with
  | nil =>
      rw [List.suffix_nil.mp older] at version
      exact version
  | cons entry earlier inductionHypothesis =>
      rcases List.suffix_cons_iff.mp older with rfl | within
      · exact version
      · have before := inductionHypothesis along.2 within
        rcases entry with ⟨actor, event⟩
        cases actor with
        | environment => rw [last_version_environment, before]
        | run worker =>
            by_cases commits : Exists fun record => event = .committed record
            · rcases commits with ⟨record, rfl⟩
              rw [last_version]
              cases installed : (record .webhook_deliveries).lookup key with
              | none => exact before
              | some draft =>
                  have listed : (key, draft) ∈ record .webhook_deliveries := by
                    rcases List.lookup_eq_some_iff.mp installed with ⟨before, later, split, _⟩
                    rw [split]
                    exact List.mem_append_right _ List.mem_cons_self
                  have justified := along.1.committing worker record rfl key draft listed
                  cases justified with
                  | created found created vacant =>
                      rw [before] at vacant
                      cases vacant
                  | kept found committed => exact committed.symm.trans before
                  | recorded found later outcome result committed sent answered computed =>
                      rw [before] at committed
                      cases committed
                      exact absurd (recorded_cases computed).1 ended
            · rw [last_version_cons (fun record same => commits ⟨record, same⟩), before]

/-! ## Exclusive sends -/

/-- Every delivery is sent by one run alone, which holds the version that is
committed.  It is sent only while none of its versions has ended and when a
retry is due, and what is committed for it was made from the version before. -/
structure ExclusiveSends (policy : RetryPolicy) (world : World) : Prop where
  alone : forall run other task task', task ∈ (world.sending run).tasks -> task' ∈ (world.sending other).tasks ->
    task.delivery.id = task'.delivery.id -> run = other ∧ task = task'
  loaded : forall run task, task ∈ (world.sending run).tasks ->
    (world.cell .webhook_deliveries task.delivery.id).committed = some (WebhookDeliveryModel.to_model task.delivery)
  due : forall newer earlier run request,
    world.trace = newer ++ (.environment, .send_called run request) :: earlier -> SendDue run request earlier
  unended : forall newer earlier run request,
    world.trace = newer ++ (.environment, .send_called run request) :: earlier ->
    forall past row, past <:+ earlier -> last_version request.x_event_id past = some row -> row.status = .PENDING
  justified : forall newer earlier run record,
    world.trace = newer ++ (.run run, .committed record) :: earlier ->
    forall key draft, (key, draft) ∈ record .webhook_deliveries -> Justified policy run key earlier draft

theorem webhooks_exclusive {state : (service deployment).State}
    (reached : Machine.Reachable (fun _ _ => True) World.initial state) (converted : Converted state.shared.trace) :
    ExclusiveSends deployment.retry_policy state.shared := by
  have kept := (delivery_verified deployment).invariant reached
  have history := webhook_history reached
  have due : forall newer earlier run request,
      state.shared.trace = newer ++ (.environment, .send_called run request) :: earlier ->
        SendDue run request earlier := by
    intro newer earlier run request split
    have before : Converted earlier := converted.mono ⟨newer ++ [_], by rw [split, List.append_assoc]; rfl⟩
    exact (history.at_split split).sending run request rfl before
  refine ⟨?_, ?_, due, ?_, ?_⟩
  · intro run other task task' listed listed' same
    rcases kept.guarded converted run task listed with ⟨row, delivery, locks, _⟩
    rcases kept.guarded converted other task' listed' with ⟨row', delivery', locks', _⟩
    have id : row.id = row'.id := by
      have first : row.id = task.delivery.id := by rw [← delivery]; rfl
      have second : row'.id = task'.delivery.id := by rw [← delivery']; rfl
      rw [first, second, same]
    have holder : run = other := Cell.HeldBy.unique ⟨_, locks.locked⟩ (id ▸ ⟨_, locks'.locked⟩)
    subst holder
    have tracks := (kept.tracked run).resolve_left (List.ne_nil_of_mem listed)
    exact ⟨rfl, List.inj_on_of_nodup_map tracks.nodup listed listed' same⟩
  · intro run task listed
    rcases kept.guarded converted run task listed with ⟨row, delivery, locks, _⟩
    rw [← delivery]
    exact locks.committed
  · intro newer earlier run request split past row older version
    rcases due newer earlier run request split with ⟨current, found, pending, _⟩
    by_contra ended
    have along := history.suffix (show earlier <:+ state.shared.trace from
      ⟨newer ++ [_], by rw [split, List.append_assoc]; rfl⟩)
    rw [ended_version_stays along older version ended] at found
    cases found
    exact ended pending
  · intro newer earlier run record split
    exact (history.at_split split).committing run record rfl

/-- The run is sending the delivery. -/
def sends_now (run : RunId) (key : UUID) (world : World) : Bool :=
  (world.sending run).tasks.any (fun task => decide (task.delivery.id = key) && task.state.isRunning)

theorem of_sends_now (found : sends_now run key world = true) :
    Exists fun task => task ∈ (world.sending run).tasks ∧ task.delivery.id = key ∧ task.state.isRunning = true := by
  rcases List.any_eq_true.mp found with ⟨task, listed, both⟩
  rw [Bool.and_eq_true, decide_eq_true_eq] at both
  exact ⟨task, listed, both⟩

def unconverted : Actor × Event -> Bool
  | (_, .send_finished _ _ (.other_error _)) => true
  | _ => false

/-- While run 10 sends delivery 4, nobody else has a task for it. -/
theorem delivery_sent_alone :
    Exists fun state : (service sample_deployment).State => sends_now 10 4 state.shared = true ∧
      forall other task, task ∈ (state.shared.sending other).tasks -> task.delivery.id = 4 -> other = 10 := by
  have sending : (Machine.runFrom (Machine.fresh World.initial) (two_deliveries ++ sending_both 10)).map
      (fun state => (sends_now 10 4 state.shared, state.shared.trace.any unconverted)) = some (true, false) := by
    decide +kernel
  rcases Option.map_eq_some_iff.mp sending with ⟨state, ran, found⟩
  have converted : Converted state.shared.trace := by
    intro worker id message listed
    have all := List.any_eq_false.mp (congrArg Prod.snd found)
    exact all _ listed rfl
  have sends : sends_now 10 4 state.shared = true := congrArg Prod.fst found
  rcases of_sends_now sends with ⟨mine, held, same, _⟩
  have exclusive := webhooks_exclusive (Machine.Path.of_runFrom _ ran) converted
  exact ⟨state, sends, fun other task listed id => (exclusive.alone other 10 task mine listed held (id.trans same.symm)).1⟩

/-- The send of delivery 8 raises, and run 10 rolls back while it still sends
delivery 4.  Run 11 claims and sends both. -/
def left_behind : List (service sample_deployment).Action :=
  two_deliveries ++ sending_both 10 ++ [.env (.finish_send 10 0 (.other_error "InvalidURL"))] ++
    calmly 10 [(50, 0), (50, 0), (50, 0)] ++ sending_both 11

theorem delivery_sent_twice :
    ¬ forall (state : (service sample_deployment).State) (run other : RunId) (task task' : SendTask),
      Machine.Reachable (fun _ _ => True) World.initial state -> task ∈ (state.shared.sending run).tasks ->
        task' ∈ (state.shared.sending other).tasks -> task.state.isRunning = true -> task'.state.isRunning = true ->
        task.delivery.id = task'.delivery.id -> run = other := by
  intro exclusive
  have both : (Machine.runFrom (Machine.fresh World.initial) left_behind).map
      (fun state => (sends_now 10 4 state.shared, sends_now 11 4 state.shared)) = some (true, true) := by decide +kernel
  rcases Option.map_eq_some_iff.mp both with ⟨state, ran, found⟩
  rcases of_sends_now (congrArg Prod.fst found) with ⟨task, listed, id, running⟩
  rcases of_sends_now (congrArg Prod.snd found) with ⟨task', listed', id', running'⟩
  have same := exclusive state 10 11 task task' (Machine.Path.of_runFrom _ ran) listed listed' running running'
    (id.trans id'.symm)
  exact absurd same (by decide)

end Properties
end Payments
