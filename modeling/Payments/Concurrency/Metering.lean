import Payments.Concurrency.Machine
import Payments.Concurrency.Translation

namespace Payments
namespace Concurrency

/-!
# Counting what operations return

A process may count what its operations have returned, in a meter of its own
that no operation reads.  The counting is done before anything else happens in
the process, so it belongs to the return of the operation.  Without the meters
the metered programs are the plain ones, and every run of a metered machine is
a run of the plain machine.
-/

/-- An operation, and what is counted when it returns normally. -/
structure Metered (sig : Signature) (Meter : Type) where
  op : sig.Op
  count : sig.Answer op -> Meter -> Meter

@[reducible] def Signature.metered (sig : Signature) (Meter : Type) : Signature :=
  ⟨Metered sig Meter, fun metered => sig.Answer metered.op, sig.Error⟩

variable {sig : Signature} {Meter X Y : Type}

namespace Prog

/-- The program without its meters. -/
def unmetered (program : Prog (sig.metered Meter) X) : Prog sig X :=
  program.translate (fun metered : Metered sig Meter => perform metered.op)

/-- The program, counting nothing. -/
def metered (Meter : Type) : Prog sig X -> Prog (sig.metered Meter) X
  | .ret value => .ret value
  | .raise error => .raise error
  | .call op next => .call ⟨op, fun _ meter => meter⟩ (fun answer => (next answer).metered Meter)

@[simp] theorem unmetered_ret (value : X) : (.ret value : Prog (sig.metered Meter) X).unmetered = .ret value := rfl

@[simp] theorem unmetered_raise (error : sig.Error) :
    (.raise error : Prog (sig.metered Meter) X).unmetered = .raise error := rfl

@[simp] theorem unmetered_call (metered : Metered sig Meter)
    (next : Except sig.Error (sig.Answer metered.op) -> Prog (sig.metered Meter) X) :
    (.call metered next : Prog (sig.metered Meter) X).unmetered =
      .call metered.op (fun answer => (next answer).unmetered) := by
  refine congrArg (Prog.call metered.op) ?_
  funext answer
  cases answer <;> rfl

theorem unmetered_bind (program : Prog (sig.metered Meter) X) (rest : X -> Prog (sig.metered Meter) Y) :
    (program >>= rest).unmetered = program.unmetered >>= fun value => (rest value).unmetered :=
  translate_bind program rest

theorem unmetered_tryCatch (program : Prog (sig.metered Meter) X) (handler : sig.Error -> Prog (sig.metered Meter) X) :
    (program.tryCatch handler).unmetered = program.unmetered.tryCatch (fun error => (handler error).unmetered) :=
  translate_tryCatch program handler

theorem unmetered_perform (metered : Metered sig Meter) :
    (@perform (sig.metered Meter) metered).unmetered = perform metered.op :=
  translate_perform metered

theorem unmetered_tryFinally (program : Prog (sig.metered Meter) X) (last : Prog (sig.metered Meter) Unit) :
    (program.tryFinally last).unmetered = program.unmetered.tryFinally last.unmetered := by
  refine (unmetered_bind (program.tryCatch (fun error => last.bind (fun _ => .raise error)))
    (fun value => last.bind (fun _ => .ret value))).trans ?_
  rw [unmetered_tryCatch, tryFinally]
  have raised : forall error, (last.bind (fun _ => .raise error) : Prog (sig.metered Meter) X).unmetered =
      last.unmetered.bind (fun _ => .raise error) := fun error => unmetered_bind last (fun _ => .raise error)
  have returned : forall value, (last.bind (fun _ => .ret value) : Prog (sig.metered Meter) X).unmetered =
      last.unmetered.bind (fun _ => .ret value) := fun value => unmetered_bind last (fun _ => .ret value)
  simp only [raised, returned]
  rfl

theorem unmetered_forEach {A : Type} (body : A -> Prog (sig.metered Meter) Unit) (elements : List A) :
    (forEach body elements).unmetered = forEach (fun element => (body element).unmetered) elements := by
  induction elements with
  | nil => rfl
  | cons head tail inductionHypothesis =>
      refine (unmetered_bind (body head) (fun _ => forEach body tail)).trans ?_
      rw [inductionHypothesis]
      rfl

@[simp] theorem unmetered_metered (program : Prog sig X) : (program.metered Meter).unmetered = program := by
  induction program with
  | ret value => rfl
  | raise error => rfl
  | call op next inductionHypothesis =>
      rw [metered, unmetered_call]
      simp only [inductionHypothesis]

theorem metered_perform (op : sig.Op) :
    (perform op).metered Meter = @perform (sig.metered Meter) ⟨op, fun _ meter => meter⟩ := by
  refine congrArg (@Prog.call (sig.metered Meter) _ ⟨op, fun _ meter => meter⟩) ?_
  funext answer
  cases answer <;> rfl

theorem OnlyCalls.metered {allowed : sig.Op -> Prop} {program : Prog sig X} (calls : program.OnlyCalls allowed) :
    (program.metered Meter).OnlyCalls (fun metered : Metered sig Meter =>
      allowed metered.op ∧ metered.count = fun _ meter => meter) := by
  induction program with
  | ret value => trivial
  | raise error => trivial
  | call op next inductionHypothesis =>
      exact ⟨⟨calls.1, rfl⟩, fun answer => inductionHypothesis answer (calls.2 answer)⟩

end Prog

namespace Machine

variable {M : Machine sig} [DecidableEq M.Run]

/-- The machine with a meter for every run. -/
@[reducible] def metered (M : Machine sig) [DecidableEq M.Run] (Meter : Type)
    (program : M.Run -> (job : M.Job) -> Prog (sig.metered Meter) (M.Result job)) : Machine (sig.metered Meter) where
  Shared := M.Shared × (M.Run -> Meter)
  Run := M.Run
  Choice := M.Choice
  Job := M.Job
  Result := M.Result
  Env := M.Env
  program := program
  exec := fun run metered choice state =>
    (M.exec run metered.op choice state.1).map (fun outcome =>
      ((outcome.1, fun other =>
        if other = run then
          match outcome.2 with
          | .ok value => metered.count value (state.2 run)
          | .error _ => state.2 run
        else state.2 other), outcome.2))
  start := fun job run state => (M.start job run state.1).map (fun shared => (shared, state.2))
  crash := fun run state => (M.crash run state.1, state.2)
  env := fun event state => (M.env event state.1).map (fun shared => (shared, state.2))

variable {program : M.Run -> (job : M.Job) -> Prog (sig.metered Meter) (M.Result job)}

def Phase.unmetered : (M.metered Meter program).Phase -> M.Phase
  | .absent => .absent
  | .running job rest => .running job rest.unmetered
  | .crashed => .crashed

/-- The state of the plain machine. -/
def State.unmetered (state : (M.metered Meter program).State) : M.State where
  shared := state.shared.1
  phase := fun run => (state.phase run).unmetered

instance : DecidableEq (M.metered Meter program).Run := inferInstanceAs (DecidableEq M.Run)

theorem State.unmetered_setPhase (state : (M.metered Meter program).State) (run : M.Run)
    (phase : (M.metered Meter program).Phase) (shared : M.Shared × (M.Run -> Meter)) :
    State.unmetered ⟨shared, state.setPhase run phase⟩ = ⟨shared.1, state.unmetered.setPhase run phase.unmetered⟩ := by
  refine congrArg (State.mk shared.1) ?_
  funext other
  by_cases same : other = run
  · subst same
    rw [State.setPhase_self]
    exact congrArg Phase.unmetered (State.setPhase_self state other phase)
  · rw [State.setPhase_of_ne _ _ same]
    exact congrArg Phase.unmetered (State.setPhase_of_ne state phase same)

/-- A run that is about to execute a metered operation is about to execute the operation. -/
theorem State.unmetered_call {state : (M.metered Meter program).State} {run : M.Run} {job : M.Job}
    {op : Metered sig Meter} {rest : Except sig.Error (sig.Answer op.op) -> Prog (sig.metered Meter) (M.Result job)}
    (running : state.phase run = .running job (.call op rest)) :
    state.unmetered.phase run = .running job (.call op.op (fun answer => (rest answer).unmetered)) := by
  have calls : (Prog.call op rest : Prog (sig.metered Meter) (M.Result job)).unmetered =
      .call op.op (fun answer => (rest answer).unmetered) := Prog.unmetered_call op rest
  rw [← calls]
  exact congrArg Phase.unmetered running

/-- Every step of the metered machine is a step of the plain one. -/
theorem step_unmetered (same : forall run job, (program run job).unmetered = M.program run job)
    {state next : (M.metered Meter program).State} {action : (M.metered Meter program).Action}
    (taken : step state action = some next) : Exists fun action => step state.unmetered action = some next.unmetered := by
  rcases step_cases taken with
    ⟨run, job, shared, absent, started, rfl⟩ | ⟨run, job, op, rest, choice, outcome, running, executed, rfl⟩ |
    ⟨run, job, op, rest, running, rfl⟩ | ⟨event, shared, happened, rfl⟩
  · rcases Option.map_eq_some_iff.mp started with ⟨begun, begins, rfl⟩
    refine ⟨.start run job, ?_⟩
    have plain : state.unmetered.phase run = .absent := congrArg Phase.unmetered absent
    have plainly : M.start job run state.unmetered.shared = some begun := begins
    simp only [step, plain, plainly, Option.map_some]
    rw [State.unmetered_setPhase, ← same run job]
    rfl
  · rcases Option.map_eq_some_iff.mp executed with ⟨returned, executes, rfl⟩
    refine ⟨.perform run choice, ?_⟩
    have plainly : M.exec run op.op choice state.unmetered.shared = some returned := executes
    simp only [step, State.unmetered_call running, plainly, Option.map_some]
    rw [State.unmetered_setPhase]
    rfl
  · refine ⟨.crash run, ?_⟩
    simp only [step, State.unmetered_call running]
    rw [State.unmetered_setPhase]
    rfl
  · rcases Option.map_eq_some_iff.mp happened with ⟨after, happens, rfl⟩
    refine ⟨.env event, ?_⟩
    have plainly : M.env event state.unmetered.shared = some after := happens
    simp only [step, plainly, Option.map_some]
    rfl

theorem Path.unmetered (same : forall run job, (program run job).unmetered = M.program run job)
    {allowed : M.Shared × (M.Run -> Meter) -> M.Shared × (M.Run -> Meter) -> Prop}
    {admitted : M.Shared -> M.Shared -> Prop}
    (implied : forall before after, allowed before after -> admitted before.1 after.1)
    {first last : (M.metered Meter program).State} (path : Path allowed first last) :
    Path admitted first.unmetered last.unmetered := by
  induction path with
  | refl => exact .refl
  | step action _ taken allowed inductionHypothesis =>
      rcases step_unmetered same taken with ⟨action, taken⟩
      exact inductionHypothesis.step action taken (implied _ _ allowed)

end Machine
end Concurrency
end Payments
