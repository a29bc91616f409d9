import Payments.Concurrency.Histories
import Payments.Concurrency.Evaluations
import Payments.Infrastructure.Frames
import Payments.System.Footprints

namespace Payments
namespace System

open Concurrency Domain Infrastructure Prog UnitOfWork

/-!
# Rules for transactions

A unit of work runs its body and, after an exception, a rollback, and closes
the session in every case.  The rules reduce a proof about it, in any
discipline of the service, to proofs about the body and these two operations.
-/

variable {deployment : Deployment} {D : Discipline (service deployment)} {run : RunId} {X : Type}
  {pre : D.Assertion run} {middle post : X -> D.Assertion run}
  {raises failed error : Error -> D.Assertion run}

theorem scope_triple {body : Program X} (first : D.Triple pre body middle raises)
    (rollback : forall raised, D.Triple (raises raised) (await .rollback) (fun _ => failed raised) failed)
    (closeFailed : forall raised, D.Triple (failed raised) (await .close) (fun _ => error raised) error)
    (closeReturned : forall value, D.Triple (middle value) (await .close) (fun _ => post value) error) :
    D.Triple pre (scope body) post error := by
  have guarded : D.Triple pre (body.tryCatch (fun raised => do
      await .rollback
      .raise raised)) middle failed :=
    Discipline.Triple.tryCatch first (fun raised =>
      Discipline.Triple.bind (rollback raised) (fun _ => Discipline.Triple.raise (fun _ _ holds => holds)))
  exact Discipline.Triple.tryFinally guarded closeFailed closeReturned

theorem transactional_triple {body : Program X} {ready : X -> D.Assertion run}
    (first : D.Triple pre body ready raises)
    (commit : forall value, D.Triple (ready value) (await .commit) (fun _ => middle value) raises)
    (rollback : forall raised, D.Triple (raises raised) (await .rollback) (fun _ => failed raised) failed)
    (closeFailed : forall raised, D.Triple (failed raised) (await .close) (fun _ => error raised) error)
    (closeReturned : forall value, D.Triple (middle value) (await .close) (fun _ => post value) error) :
    D.Triple pre (transactional true body) post error := by
  refine scope_triple (Discipline.Triple.bind first (fun value => ?_)) rollback closeFailed closeReturned
  exact Discipline.Triple.bind (commit value) (fun _ => Discipline.Triple.ret (fun _ _ holds => holds))

/-- A unit of work that returns has its value from the body. -/
theorem evaluated_body {commit : Bool} {body : Program X} {first last : (service deployment).State} {value : X}
    (evaluates : Evaluates (D.Waits run) (D.Performed run) (transactional commit body) first (.ok value) last) :
    Exists fun middle => Evaluates (D.Waits run) (D.Performed run) body first (.ok value) middle ∧
      Machine.Path D.allowed middle last := by
  rcases evaluates.of_tryFinally with ⟨middle, guarded, closing⟩
  rcases (Evaluates.of_reraised guarded).of_bind_ok with ⟨found, ended, evaluated, committing⟩
  have path := (Discipline.Waits.path committing).trans (Discipline.Waits.path closing)
  cases commit with
  | false =>
      cases committing
      exact ⟨_, evaluated, path⟩
  | true =>
      rcases Evaluates.of_bind_ok committing with ⟨_, _, _, returned⟩
      cases returned
      exact ⟨_, evaluated, path⟩

/-! ## Steps of the service -/

section

variable {world after : World} {op : Op}

theorem service_executed {choice : Choice} {answer : Except Error op.Answer}
    (ran : (service deployment).exec run op choice world = some (after, answer)) :
    World.Executed run world op after answer :=
  World.exec_executed ran

/-- A start changes nothing, except that a consumer is handed its message. -/
theorem start_cases {job : Job} (started : start deployment job run world = some after) :
    after = world ∨ Exists fun settings => Exists fun message => job = .consume settings message ∧
      message ∈ world.broker.main ∧ after = deliver run message world := by
  cases job with
  | outbox settings cycles =>
      simp only [start] at started
      split at started
      · cases started
        exact .inl rfl
      · cases started
  | consume settings message =>
      simp only [start] at started
      split at started
      · next listed =>
          cases started
          exact .inr ⟨settings, message, rfl, listed, rfl⟩
      · cases started
  | _ =>
      cases started
      exact .inl rfl

theorem untouched_deliver {other : RunId} {message : Message} (different : other ≠ run) :
    World.Untouched other world (deliver run message world) := by
  refine World.Untouched.trans ?_ (World.untouched_note (World.actor_ne different))
  exact World.untouched_set_broker (.inl (Function.update_of_ne different _ _))

theorem own_deliver {message : Message} :
    (deliver run message world).own run = .delivered message :: world.own run :=
  World.own_note_self (.delivered message)

/-- One step of the service records one entry at most. -/
theorem trace_step {state next : (service deployment).State} {action : (service deployment).Action}
    (taken : Machine.step state action = some next) :
    next.shared.trace = state.shared.trace ∨
      Exists fun entry => next.shared.trace = entry :: state.shared.trace := by
  rcases Machine.step_cases taken with
    ⟨run, job, shared, absent, started, rfl⟩ | ⟨run, job, op, rest, choice, outcome, running, ran, rfl⟩ |
    ⟨run, job, op, rest, running, rfl⟩ | ⟨event, shared, happened, rfl⟩
  · rcases start_cases started with same | ⟨settings, message, _, _, same⟩
    · exact .inl (congrArg World.trace same)
    · exact .inr ⟨(.run run, .delivered message), congrArg World.trace same⟩
  · rcases (service_executed ran).trace with same | ⟨event, _, same⟩
    · exact .inl same
    · exact .inr ⟨_, same⟩
  · exact .inr ⟨_, World.crash_trace⟩
  · rcases (World.happen_occurred happened).trace with same | ⟨noted, _, same⟩
    · exact .inl same
    · exact .inr ⟨_, same⟩

/-- What every operation may record where a run is about to execute it holds
along the whole trace. -/
theorem reachable_along {admits : World -> World -> Prop}
    {allowed : Actor × Event -> List (Actor × Event) -> Prop}
    (delivers : forall run message earlier, allowed (.run run, .delivered message) earlier)
    (crashes : forall run earlier, allowed (.run run, .rolled_back) earlier)
    (observes : forall (state : (service deployment).State) event after,
      Machine.Reachable admits World.initial state -> World.Occurred state.shared after ->
      after.trace = (.environment, event) :: state.shared.trace -> allowed (.environment, event) state.shared.trace)
    (operations : forall (state : (service deployment).State) run op event,
      Machine.Reachable admits World.initial state -> state.pending run = some op ->
      World.Records run state.shared op event -> allowed (.run run, event) state.shared.trace)
    {state : (service deployment).State} (reached : Machine.Reachable admits World.initial state) :
    Along allowed state.shared.trace := by
  induction reached with
  | refl => exact .nil
  | @step state next action earlier taken admitted inductionHypothesis =>
      rcases Machine.step_cases taken with
        ⟨run, job, shared, absent, started, rfl⟩ | ⟨run, job, op, rest, choice, outcome, running, ran, rfl⟩ |
        ⟨run, job, op, rest, running, rfl⟩ | ⟨event, shared, happened, rfl⟩
      · rcases start_cases started with same | ⟨settings, message, _, _, same⟩
        · exact same ▸ inductionHypothesis
        · rw [same]
          exact inductionHypothesis.cons (delivers run message _)
      · rcases (service_executed ran).trace with same | ⟨event, records, same⟩
        · exact same ▸ inductionHypothesis
        · rw [same]
          exact inductionHypothesis.cons
            (operations state run op event earlier (Machine.State.pending_of_running running) records)
      · have same : (World.crash run state.shared).trace = _ := World.crash_trace
        rw [same]
        exact inductionHypothesis.cons (crashes run _)
      · have occurred := World.happen_occurred happened
        rcases occurred.trace with same | ⟨noted, _, same⟩
        · exact same ▸ inductionHypothesis
        · rw [same]
          exact inductionHypothesis.cons (observes state noted shared earlier occurred same)

end

end System
end Payments
