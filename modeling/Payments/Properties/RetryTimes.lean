import Payments.Concurrency.Asking
import Payments.Properties.OutboxFencing

namespace Payments
namespace Properties

open Concurrency Domain Infrastructure Application Prog UnitOfWork Payments.System

/-!
# The retry time of a failed publish

A worker reads the clock once in a cycle, before it claims its batch.  Every
retry time that it writes is the delay of the message's attempts after this
reading, however long the publishes of the batch have taken.
-/

variable {deployment : Deployment} {world after : World} {run : RunId} {op : Op} {settings : Settings}

/-! ## The last reading of the clock -/

def last_reading : List Event -> Option Datetime
  | [] => none
  | .clock_read reading :: _ => some reading
  | _ :: older => last_reading older

theorem last_reading_cons {event : Event} {older : List Event} (unread : forall reading, event ≠ .clock_read reading) :
    last_reading (event :: older) = last_reading older := by
  cases event with
  | clock_read reading => exact absurd rfl (unread reading)
  | _ => rfl

/-- Only a reading of the clock changes what a run has read last. -/
theorem last_reading_executed {answer : Except Error op.Answer} (reads : op ≠ .now)
    (executed : World.Executed run world op after answer) :
    last_reading (after.own run) = last_reading (world.own run) := by
  rcases executed.trace with same | ⟨event, recorded, same⟩
  · rw [own_of_same same]
  · rw [own_of_trace same]
    apply last_reading_cons
    rintro reading rfl
    cases recorded
    exact reads rfl

/-! ## What a worker asks for -/

/-- The factor of the jitter lies between one and its largest value. -/
def Drawn (settings : Settings) (factor : Rat) : Prop :=
  min 1 (1 + settings.OUTBOX_RETRY_JITTER) ≤ factor ∧ factor ≤ max 1 (1 + settings.OUTBOX_RETRY_JITTER)

/-- A retry time is a delay after a reading. -/
def Delayed (settings : Settings) (attempts : Nat) (now : Datetime) (retry_at : Option Datetime) : Prop :=
  forall time, retry_at = some time -> Exists fun factor =>
    Drawn settings factor ∧ time = now + OutboxWorker.retry_delay settings attempts * factor

/-- Whatever a worker marks as failed gets the delay of its attempts after the
last reading of the worker. -/
def Retries (settings : Settings) (run : RunId) (op : Op) (world : World) : Prop :=
  forall message_id worker_id limit retry_at,
    op = .update .outbox_messages (.mark_publish_failure message_id worker_id limit retry_at) ->
    limit = settings.OUTBOX_MAX_ATTEMPTS ∧ Exists fun now => last_reading (world.own run) = some now ∧
      forall row, Owns run message_id row world -> Delayed settings row.attempts now retry_at

/-- Operations that neither read the clock nor mark a failure. -/
structure Elsewhere (op : Op) : Prop where
  reading : op ≠ .now
  failing : forall message_id worker_id limit retry_at,
    op ≠ .update .outbox_messages (.mark_publish_failure message_id worker_id limit retry_at)

theorem Elsewhere.retries (elsewhere : Elsewhere op) (world : World) : Retries settings run op world :=
  fun message_id worker_id limit retry_at same => absurd same (elsewhere.failing message_id worker_id limit retry_at)

def reads (run : RunId) (now : Datetime) : (outbox_discipline deployment).Assertion run :=
  knows run (fun world => last_reading (world.own run) = some now)
    (fun _ _ frame _ known => frame.untouched.own ▸ known)

/-- What the discipline says about a program that neither reads the clock nor
marks a failure, with the last reading kept. -/
theorem elsewhere_triple {X : Type} {pre : (outbox_discipline deployment).Assertion run} {program : Program X}
    {post : X -> (outbox_discipline deployment).Assertion run}
    {error : Error -> (outbox_discipline deployment).Assertion run} (now : Datetime)
    (calls : program.OnlyCalls Elsewhere) (triple : (outbox_discipline deployment).Triple pre program post error) :
    ((outbox_discipline deployment).asking (Retries settings)).Triple (pre.both (reads run now)).asking program
      (fun value => ((post value).both (reads run now)).asking)
      (fun raised => (error raised).asking) := by
  have framed := Discipline.Triple.frame (reads run now) (fun op elsewhere state choice after answer _ known ran _ =>
    (last_reading_executed elsewhere.reading (service_executed ran)).trans known) calls triple
  have asked : ((outbox_discipline deployment).asking (Retries settings)).Triple (pre.both (reads run now)).asking
      program (fun value => ((post value).both (reads run now)).asking)
      (fun raised => ((error raised).both (reads run now)).asking) :=
    framed.asking (fun _ elsewhere => elsewhere.retries) calls
  exact asked.weaken (fun _ _ known => known) (fun _ _ _ known => known) (fun _ _ _ known => known.1)

theorem elsewhere_update {statement : Update .outbox_messages}
    (failing : forall message_id worker_id limit retry_at,
      statement ≠ .mark_publish_failure message_id worker_id limit retry_at) :
    Elsewhere (.update .outbox_messages statement) where
  reading := by simp
  failing := by
    intro message_id worker_id limit retry_at same
    cases same
    exact failing message_id worker_id limit retry_at rfl

theorem claim_elsewhere (settings : Settings) (worker_id : UUID) (now : Datetime) :
    (OutboxWorker.claim settings worker_id now).OnlyCalls Elsewhere := by
  refine scope_calls (fun op ends => ?_) (OnlyCalls.bind ?_ (fun _ => OnlyCalls.bind ?_ (fun _ => ?_)))
  · cases ends <;> exact ⟨by simp, by simp⟩
  · exact OnlyCalls.bind (OnlyCalls.perform (elsewhere_update (by simp)))
      (fun _ => OnlyCalls.bind (OnlyCalls.perform (elsewhere_update (by simp))) (fun _ => OnlyCalls.ret _))
  · exact OnlyCalls.bind (OnlyCalls.perform ⟨by simp, by simp⟩) (fun _ => OnlyCalls.ret _)
  · exact OnlyCalls.bind (OnlyCalls.perform ⟨by simp, by simp⟩) (fun _ => OnlyCalls.ret _)

theorem scope_elsewhere {op : Op} (ends : ScopeCalls op) : Elsewhere op := by
  cases ends <;> exact ⟨by simp, by simp⟩

/-- The end of a transaction. -/
theorem scope_asked {op : Op} (ends : ScopeCalls op) {pre : (outbox_discipline deployment).Assertion run}
    {post : op.Answer -> (outbox_discipline deployment).Assertion run}
    {error : Error -> (outbox_discipline deployment).Assertion run}
    (triple : (outbox_discipline deployment).Triple pre (await op) post error) :
    ((outbox_discipline deployment).asking (Retries settings)).Triple pre.asking (await op)
      (fun value => (post value).asking) (fun raised => (error raised).asking) :=
  triple.asking (fun _ elsewhere => elsewhere.retries) (OnlyCalls.perform (scope_elsewhere ends))

/-! ## The marks of failures -/

/-- The retry time the worker computes for a message. -/
theorem next_retry_delayed (settings : Settings) (now : Datetime) (attempts : Nat)
    {known : (outbox_discipline deployment).Assertion run} {raises : Error -> (outbox_discipline deployment).Assertion run}
    (neutral : forall world, known world -> LeasePermits deployment run
      (.uniform 1 (1 + settings.OUTBOX_RETRY_JITTER)) world)
    (raised : forall error world, known world -> raises error world) :
    (outbox_discipline deployment).Triple known (OutboxWorker.next_retry_at settings attempts now)
      (fun retry_at => known.both (.fact (Delayed settings attempts now retry_at))) raises := by
  rw [OutboxWorker.next_retry_at]
  split
  · exact Discipline.Triple.ret (fun _ _ holds => ⟨holds, fun time impossible => by cases impossible⟩)
  · split
    · next constant =>
        refine Discipline.Triple.ret (fun _ _ holds => ⟨holds, fun time same => ⟨1, ?_, ?_⟩⟩)
        · rw [Drawn, constant, add_zero, min_self, max_self]
          exact ⟨le_refl 1, le_refl 1⟩
        · rw [mul_one]
          exact (Option.some.inj same).symm
    · have drawn : (outbox_discipline deployment).Triple known
          (await (.uniform 1 (1 + settings.OUTBOX_RETRY_JITTER)))
          (fun factor => known.both (.fact (Drawn settings factor))) raises := by
        refine Discipline.Triple.perform (fun world _ holds => neutral world holds)
          (fun state _ _ factor _ holds ran _ _ => ?_) (fun state _ _ error _ holds ran _ _ => ?_)
        · cases service_executed ran with
          | uniform low high number above below => exact ⟨holds, above, below⟩
        · cases service_executed ran with
          | raised => exact raised error _ holds
      refine Discipline.Triple.bind drawn (fun factor => Discipline.Triple.ret (fun _ _ holds => ?_))
      exact ⟨holds.1, fun time same => ⟨factor, holds.2, (Option.some.inj same).symm⟩⟩

theorem mark_failure_delayed (now : Datetime)
    {message : OutboxMessage} (messages : List OutboxMessage) {results : List (OutboxMessage × Bool)}
    (failed : (message, false) ∈ results) :
    ((outbox_discipline deployment).asking (Retries settings)).Triple
      ((marking run messages results []).both (reads run now)).asking
      (OutboxWorker.mark_failure settings run now message)
      (fun _ => ((marking run messages results []).both (reads run now)).asking) (fun _ => (idle run).asking) := by
  have computed : (outbox_discipline deployment).Triple ((marking run messages results []).both (reads run now))
      (OutboxWorker.next_retry_at settings message.attempts now)
      (fun retry_at => ((marking run messages results []).both (reads run now)).both
        (.fact (Delayed settings message.attempts now retry_at))) (fun _ => idle run) := by
    refine next_retry_delayed settings now message.attempts (fun world _ => ?_) (fun error world known => ?_)
    · exact (no_lease_of_ne (by simp) (by simp) (by simp) (by simp) (by simp)).permits_of_ne (by simp) (by simp)
    · rcases known.1 with ⟨rows, _, marking⟩
      exact marking.results.idle
  have calls : (OutboxWorker.next_retry_at settings message.attempts now).OnlyCalls Elsewhere := by
    rw [OutboxWorker.next_retry_at]
    split
    · exact OnlyCalls.ret _
    · split
      · exact OnlyCalls.ret _
      · exact OnlyCalls.bind (OnlyCalls.perform ⟨by simp, by simp⟩) (fun _ => OnlyCalls.ret _)
  refine Discipline.Triple.bind (computed.asking (fun _ elsewhere => elsewhere.retries) calls) (fun retry_at => ?_)
  have marked : ((outbox_discipline deployment).asking (Retries settings)).Triple
      (((marking run messages results []).both (reads run now)).both
        (.fact (Delayed settings message.attempts now retry_at))).asking
      (await (.update .outbox_messages
        (.mark_publish_failure message.id run settings.OUTBOX_MAX_ATTEMPTS retry_at)))
      (fun _ => ((marking run messages results []).both (reads run now)).asking) (fun _ => (idle run).asking) := by
    refine Discipline.Triple.perform (fun world _ known => ?_) (fun state _ _ _ _ known ran _ _ => ?_)
      (fun state _ _ _ _ known ran _ _ => ?_)
    · rcases known with ⟨⟨⟨rows, same, marking⟩, read⟩, delayed⟩
      intro message_id worker_id limit time asked
      cases asked
      refine ⟨rfl, now, read, fun row owns => ?_⟩
      -- What the worker still owns is the row its cycle has claimed.
      rcases row_of_result marking.results.messages failed with ⟨held, member, own⟩
      change held.to_domain = message at own
      subst own
      have current : Current run held.id held world := (marking.results.batch.current held.id held).mpr ⟨member, rfl⟩
      rw [marking.results.batch.fenced held.id row held owns current]
      exact delayed
    · rcases known with ⟨⟨⟨rows, same, marking⟩, read⟩, _⟩
      have executed := service_executed ran
      exact ⟨⟨rows, same, marking.executed (by simp) executed⟩, (last_reading_executed (by simp) executed).trans read⟩
    · rcases known with ⟨⟨⟨rows, _, marking⟩, _⟩, _⟩
      exact idle_executed marking.results.idle (by simp) (service_executed ran)
  exact Discipline.Triple.bind marked (fun _ => Discipline.Triple.ret (fun _ _ known => known))

theorem mark_failures_delayed (now : Datetime)
    (messages : List OutboxMessage) {results : List (OutboxMessage × Bool)} {failed : List OutboxMessage}
    (members : forall message, message ∈ failed -> (message, false) ∈ results) :
    ((outbox_discipline deployment).asking (Retries settings)).Triple
      ((marking run messages results []).both (reads run now)).asking
      (forEach (OutboxWorker.mark_failure settings run now) failed)
      (fun _ => ((marking run messages results []).both (reads run now)).asking) (fun _ => (idle run).asking) := by
  induction failed with
  | nil => exact Discipline.Triple.ret (fun _ _ known => known)
  | cons head tail inductionHypothesis =>
      exact Discipline.Triple.bind (mark_failure_delayed now messages (members head List.mem_cons_self))
        (fun _ => inductionHypothesis (fun message listed => members message (List.mem_cons_of_mem _ listed)))

theorem mark_delayed (now : Datetime)
    (messages : List OutboxMessage) (results : List (OutboxMessage × Bool)) :
    ((outbox_discipline deployment).asking (Retries settings)).Triple
      ((published run messages results).both (reads run now)).asking
      (OutboxWorker.mark settings run now (OutboxWorker.published_ids messages results)
        (OutboxWorker.failed_messages results))
      (fun _ => (resting run).asking) (fun _ => (resting run).asking) := by
  have body : ((outbox_discipline deployment).asking (Retries settings)).Triple
      ((published run messages results).both (reads run now)).asking (do
        forEach (fun message_id => SqlAlchemyOutboxRepository.mark_processed message_id run)
          (OutboxWorker.published_ids messages results)
        forEach (OutboxWorker.mark_failure settings run now) (OutboxWorker.failed_messages results)
        await .commit) (fun _ => (idle run).asking) (fun _ => (idle run).asking) := by
    refine Discipline.Triple.bind (elsewhere_triple now (OnlyCalls.forEach (fun message_id =>
      OnlyCalls.bind (OnlyCalls.perform (elsewhere_update (by simp))) (fun _ => OnlyCalls.ret _)) _)
      (mark_all_triple messages results)) (fun _ => ?_)
    refine Discipline.Triple.bind (mark_failures_delayed now messages (fun _ => mem_failed_messages.mp)) (fun _ => ?_)
    exact (scope_asked .commit (commit_marks_triple messages results)).strengthen (fun _ _ known => known.1)
  exact scope_triple body (fun _ => scope_asked .rollback idle_rollback_triple)
    (fun _ => scope_asked .close close_triple) (fun _ => scope_asked .close close_triple)

theorem publish_delayed (now : Datetime) (messages : List OutboxMessage) :
    ((outbox_discipline deployment).asking (Retries settings)).Triple ((ready run messages).both (reads run now)).asking
      (OutboxWorker.publish settings run now messages)
      (fun _ => (resting run).asking) (fun _ => (resting run).asking) := by
  rw [OutboxWorker.publish]
  split
  · refine Discipline.Triple.raise (fun _ _ known => ?_)
    rcases known.1 with ⟨rows, _, ready⟩
    exact ready.resting
  · refine Discipline.Triple.bind (elsewhere_triple now (OnlyCalls.perform ⟨by simp, by simp⟩)
      (publish_all_triple messages _)) (fun _ => ?_)
    refine Discipline.Triple.bind (elsewhere_triple now (OnlyCalls.perform ⟨by simp, by simp⟩)
      (published_all_triple messages)) (fun results => ?_)
    dsimp only
    split
    · refine Discipline.Triple.ret (fun _ _ known => ?_)
      rcases known.1 with ⟨rows, _, free, results⟩
      exact ⟨free, results.idle⟩
    · exact mark_delayed now messages results

theorem publish_batch_delayed (allowed : deployment.outbox_settings settings = true) :
    ((outbox_discipline deployment).asking (Retries settings)).Triple (resting run).asking
      (OutboxWorker.publish_batch settings run) (fun _ => (resting run).asking) (fun _ => (resting run).asking) := by
  have read : ((outbox_discipline deployment).asking (Retries settings)).Triple (resting run).asking (await .now)
      (fun now => ((opened run now).both (reads run now)).asking) (fun _ => (resting run).asking) := by
    intro world kept known later rely kept'
    have still : Resting run later := (resting run).stable known rely kept'
    have safe := read_clock later kept' still later (Discipline.Rely.refl _ run later) kept'
    refine ⟨fun _ _ _ _ same => (by cases same), fun choice after answer ran kept'' evolves => ?_⟩
    have ended := safe.2 choice after answer ran kept'' evolves
    cases answer with
    | error error => exact ended
    | ok now =>
        refine ⟨ended, ?_⟩
        cases service_executed ran with
        | now reading =>
            have own : (World.note (.run run) (.clock_read now) later).own run = .clock_read now :: later.own run :=
              World.own_note_self (.clock_read now)
            exact congrArg last_reading own
  refine Discipline.Triple.bind read (fun now => ?_)
  refine Discipline.Triple.bind (elsewhere_triple now (claim_elsewhere settings run now) (claim_triple allowed now))
    (fun messages => ?_)
  split
  · refine Discipline.Triple.ret (fun _ _ known => ?_)
    rcases known.1 with ⟨rows, _, ready⟩
    exact ready.resting
  · exact publish_delayed now messages

/-- A worker counts every delay from the last reading, in any number of cycles. -/
theorem worker_delayed (allowed : deployment.outbox_settings settings = true) (done cycles : Nat) :
    ((outbox_discipline deployment).asking (Retries settings)).Triple (resting run).asking
      (OutboxWorker.run settings run done cycles) (fun _ => (resting run).asking) (fun _ => (resting run).asking) := by
  have logged : forall {program : Program Unit},
      ((outbox_discipline deployment).asking (Retries settings)).Triple (resting run).asking program
        (fun _ => (resting run).asking) (fun _ => (resting run).asking) ->
      ((outbox_discipline deployment).asking (Retries settings)).Triple (resting run).asking
        (OutboxWorker.logged program) (fun _ => (resting run).asking) (fun _ => (resting run).asking) := by
    intro program triple
    refine Discipline.Triple.tryCatch triple (fun error => ?_)
    cases error with
    | cancelled => exact Discipline.Triple.raise (fun _ _ known => known)
    | _ => exact Discipline.Triple.ret (fun _ _ known => known)
  have purges : (OutboxWorker.purge_processed settings).OnlyCalls (fun op : Op => forall message_id worker_id limit retry_at,
      op ≠ .update .outbox_messages (.mark_publish_failure message_id worker_id limit retry_at)) := by
    refine OnlyCalls.bind (OnlyCalls.perform (by simp)) (fun now => ?_)
    refine scope_calls (fun op ends => (scope_elsewhere ends).failing) ?_
    exact OnlyCalls.bind (OnlyCalls.bind (OnlyCalls.perform (by simp)) (fun _ => OnlyCalls.ret _))
      (fun _ => OnlyCalls.bind (OnlyCalls.perform (by simp)) (fun _ => OnlyCalls.perform (by simp)))
  have purge : ((outbox_discipline deployment).asking (Retries settings)).Triple (resting run).asking
      (OutboxWorker.purge_processed settings) (fun _ => (resting run).asking) (fun _ => (resting run).asking) :=
    (purge_triple allowed).asking (fun op unfailing state message_id worker_id limit retry_at same =>
      absurd same (unfailing message_id worker_id limit retry_at)) purges
  induction cycles generalizing done with
  | zero => exact Discipline.Triple.ret (fun _ _ known => known)
  | succ cycles inductionHypothesis =>
      rw [OutboxWorker.run]
      refine Discipline.Triple.bind (logged (publish_batch_delayed allowed)) (fun _ => ?_)
      split
      · exact Discipline.Triple.raise (fun _ _ known => known)
      · dsimp only
        split
        · exact Discipline.Triple.bind (logged purge) (fun _ => inductionHypothesis (done + 1))
        · exact inductionHypothesis (done + 1)

/-- What a worker writes as the retry time of a message it owns. -/
theorem retry_asked {state : (service deployment).State} {cycles : Nat}
    {next : Except Error op.Answer -> Program Unit} (reached : Machine.Reachable (fun _ _ => True) World.initial state)
    (running : state.phase run = .running (.outbox settings cycles) (.call op next)) :
    Retries settings run op state.shared := by
  have safe : forall world after, LeasesKept deployment world -> Unstarted run world ->
      start deployment (.outbox settings cycles) run world = some after -> LeasesKept deployment after ->
      LeasesEvolve world after ->
      ((outbox_discipline deployment).asking (Retries settings)).Safe run (fun _ => (resting run).asking)
        (fun _ => (resting run).asking) (OutboxWorker.run settings run 0 cycles) after := by
    intro world after _ known begun kept' _
    have unstarted : Unstarted run after := Unstarted.started known begun
    have allowed : deployment.outbox_settings settings = true := by
      simp only [start] at begun
      split at begun
      · assumption
      · cases begun
    exact worker_delayed allowed 0 cycles after kept' ⟨unstarted.free, unstarted.idle⟩
  exact @Discipline.Verified.asked _ (service deployment) _ (Retries settings) run _ _ (outbox_verified deployment)
    (.outbox settings cycles) (fun _ => (resting run).asking) (fun _ => (resting run).asking) safe state reached op next
    running

end Properties
end Payments
