import Mathlib.Data.Set.Finite.Basic
import Payments.Concurrency.Progress

namespace Payments
namespace Concurrency
namespace Machine

/-!
# A run that goes on alone

From a given state a run can be led to a normal end of its program, by its own
operations only, if at each operation there is a choice with which it goes on
as wanted.  This is a statement of total correctness: the rules follow the
program text, and an exception counts as a failure.

The environment is the partner here and not the adversary, so the rules say
what can be reached and not what must happen.
-/

variable {sig : Signature} {M : Machine sig} {calm : M.Choice -> Prop} {run : M.Run} {X Y : Type}

/-- The program can be brought to a value that satisfies the condition. -/
def Alone (M : Machine sig) (calm : M.Choice -> Prop) (run : M.Run) (post : X -> M.Shared -> Prop) :
    Prog sig X -> M.Shared -> Prop
  | .ret value, state => post value state
  | .raise _, _ => False
  | .call op next, state => Exists fun choice => Exists fun after => Exists fun answer =>
      calm choice ∧ M.exec run op choice state = some (after, answer) ∧ Alone M calm run post (next answer) after

namespace Alone

variable {post weaker : X -> M.Shared -> Prop} {middle : X -> M.Shared -> Prop} {last : Y -> M.Shared -> Prop}
  {program : Prog sig X} {state : M.Shared}

theorem ret {value : X} (known : post value state) : Alone M calm run post (pure value) state := known

theorem perform {op : sig.Op} {post : sig.Answer op -> M.Shared -> Prop} {choice : M.Choice} {after : M.Shared}
    {value : sig.Answer op} (undisturbed : calm choice) (executed : M.exec run op choice state = some (after, .ok value))
    (known : post value after) : Alone M calm run post (Prog.perform op) state :=
  ⟨choice, after, .ok value, undisturbed, executed, known⟩

/-- A computation that succeeds hands its value on. -/
theorem ofExcept {outcome : Except sig.Error X} {value : X} {rest : X -> Prog sig Y} (returned : outcome = .ok value)
    (alone : Alone M calm run last (rest value) state) : Alone M calm run last (Prog.ofExcept outcome >>= rest) state := by
  subst returned
  exact alone

theorem mono (alone : Alone M calm run post program state)
    (weakened : forall value state, post value state -> weaker value state) :
    Alone M calm run weaker program state := by
  induction program generalizing state with
  | ret value => exact weakened value state alone
  | raise error => exact alone
  | call op next inductionHypothesis =>
      rcases alone with ⟨choice, after, answer, undisturbed, executed, rest⟩
      exact ⟨choice, after, answer, undisturbed, executed, inductionHypothesis answer rest⟩

theorem bind {rest : X -> Prog sig Y} (first : Alone M calm run middle program state)
    (second : forall value state, middle value state -> Alone M calm run last (rest value) state) :
    Alone M calm run last (program >>= rest) state := by
  change Alone M calm run last (program.bind rest) state
  induction program generalizing state with
  | ret value => exact second value state first
  | raise error => exact first.elim
  | call op next inductionHypothesis =>
      rcases first with ⟨choice, after, answer, undisturbed, executed, first⟩
      exact ⟨choice, after, answer, undisturbed, executed, inductionHypothesis answer first⟩

/-- The handler is not needed. -/
theorem tryCatch {handler : sig.Error -> Prog sig X} (alone : Alone M calm run post program state) :
    Alone M calm run post (program.tryCatch handler) state := by
  induction program generalizing state with
  | ret value => exact alone
  | raise error => exact alone.elim
  | call op next inductionHypothesis =>
      rcases alone with ⟨choice, after, answer, undisturbed, executed, alone⟩
      exact ⟨choice, after, answer, undisturbed, executed, inductionHypothesis answer alone⟩

theorem tryFinally {closing : Prog sig Unit} (first : Alone M calm run middle program state)
    (second : forall value state, middle value state -> Alone M calm run (fun _ => post value) closing state) :
    Alone M calm run post (program.tryFinally closing) state :=
  bind (tryCatch first) (fun value state known => bind (second value state known) (fun _ _ known => known))

/-- In a system of runs, the steps of this run lead it to its end. -/
theorem drives [DecidableEq M.Run] {state : M.State} {job : M.Job} {rest : Prog sig (M.Result job)}
    {post : M.Result job -> M.Shared -> Prop} (running : state.phase run = .running job rest)
    (alone : Alone M calm run post rest state.shared) : Exists fun last : M.State => Exists fun value =>
      Driven (fun other => other = run) calm state last ∧ last.phase run = .running job (.ret value) ∧
        post value last.shared := by
  induction rest generalizing state with
  | ret value => exact ⟨state, value, .refl, running, alone⟩
  | raise error => exact alone.elim
  | call op next inductionHypothesis =>
      rcases alone with ⟨choice, after, answer, undisturbed, executed, alone⟩
      have taken := step_of_exec running executed
      have started : Driven (fun other => other = run) calm state
          ⟨after, state.setPhase run (.running job (next answer))⟩ := Driven.refl.step run choice rfl undisturbed taken
      rcases @inductionHypothesis answer ⟨after, state.setPhase run (.running job (next answer))⟩
        (State.setPhase_self state run _) alone with ⟨last, value, driven, ended, known⟩
      exact ⟨last, value, started.trans driven, ended, known⟩

end Alone

/-! ## A run for the next job -/

variable [DecidableEq M.Run]

/-- Only finitely many runs have been started. -/
theorem started_finite {shared : M.Shared} {state : M.State} (path : Path (fun _ _ => True) (fresh shared) state) :
    Set.Finite {run : M.Run | state.phase run ≠ .absent} := by
  induction path with
  | refl => exact Set.finite_empty.subset (fun run started => started rfl)
  | @step state next action _ taken _ inductionHypothesis =>
      have replaced : forall (shared : M.Shared) other phase,
          Set.Finite {run : M.Run | (State.mk shared (state.setPhase other phase)).phase run ≠ .absent} := by
        intro shared other phase
        refine (inductionHypothesis.insert other).subset (fun run started => ?_)
        by_cases same : run = other
        · exact .inl same
        · exact .inr (fun absent => started ((State.setPhase_of_ne state _ same).trans absent))
      rcases step_cases taken with
        ⟨other, job, shared, _, _, rfl⟩ | ⟨other, job, op, rest, choice, outcome, _, _, rfl⟩ |
        ⟨other, job, op, rest, _, rfl⟩ | ⟨event, shared, _, rfl⟩
      · exact replaced shared other _
      · exact replaced outcome.1 other _
      · exact replaced _ other _
      · exact inductionHypothesis

/-- Where there are infinitely many runs, one of them is still absent. -/
theorem exists_absent [Infinite M.Run] {shared : M.Shared} {state : M.State}
    (path : Path (fun _ _ => True) (fresh shared) state) : Exists fun run => state.phase run = .absent := by
  rcases (started_finite path).exists_notMem with ⟨run, unstarted⟩
  exact ⟨run, not_not.mp unstarted⟩

end Machine
end Concurrency
end Payments
