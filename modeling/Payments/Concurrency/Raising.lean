import Payments.Concurrency.Machine

namespace Payments
namespace Concurrency

/-!
# The exceptions a program can end with

Some exceptions come from the operations of a program and others from the
program itself.  What is known about the former is a hypothesis here, and the
rules follow the program, so a bound on all exceptions of a run is read off
the text of its program.
-/

namespace Prog

variable {sig : Signature} {X Y : Type} {answers : sig.Op -> sig.Error -> Prop} {raised : sig.Error -> Prop}

/-- As long as the operations fail with such exceptions only, the program ends
with a value or with one of these. -/
def Raises (answers : sig.Op -> sig.Error -> Prop) (raised : sig.Error -> Prop) : Prog sig X -> Prop
  | .ret _ => True
  | .raise error => raised error
  | .call op next => (forall value, (next (.ok value)).Raises answers raised) ∧
      forall error, answers op error -> (next (.error error)).Raises answers raised

namespace Raises

theorem ret (value : X) : (pure value : Prog sig X).Raises answers raised := trivial

theorem perform {op : sig.Op} (known : forall error, answers op error -> raised error) :
    (perform op).Raises answers raised :=
  ⟨fun _ => trivial, known⟩

theorem ofExcept {outcome : Except sig.Error X} (known : forall error, outcome = .error error -> raised error) :
    (ofExcept outcome).Raises answers raised := by
  cases outcome with
  | ok value => trivial
  | error error => exact known error rfl

theorem bind {program : Prog sig X} {rest : X -> Prog sig Y} (first : program.Raises answers raised)
    (second : forall value, (rest value).Raises answers raised) : (program >>= rest).Raises answers raised := by
  change (program.bind rest).Raises answers raised
  induction program with
  | ret value => exact second value
  | raise error => exact first
  | call op next inductionHypothesis =>
      exact ⟨fun value => inductionHypothesis _ (first.1 value),
        fun error failed => inductionHypothesis _ (first.2 error failed)⟩

theorem ofExcept_bind {outcome : Except sig.Error X} {rest : X -> Prog sig Y}
    (known : forall error, outcome = .error error -> raised error)
    (second : forall value, outcome = .ok value -> (rest value).Raises answers raised) :
    (Prog.ofExcept outcome >>= rest).Raises answers raised := by
  cases outcome with
  | ok value => exact second value rfl
  | error error => exact known error rfl

/-- The exceptions of the guarded program end in the handler. -/
theorem tryCatch {caught : sig.Error -> Prop} {program : Prog sig X} {handler : sig.Error -> Prog sig X}
    (first : program.Raises answers caught)
    (second : forall error, caught error -> (handler error).Raises answers raised) :
    (program.tryCatch handler).Raises answers raised := by
  induction program with
  | ret value => trivial
  | raise error => exact second error first
  | call op next inductionHypothesis =>
      exact ⟨fun value => inductionHypothesis _ (first.1 value),
        fun error failed => inductionHypothesis _ (first.2 error failed)⟩

theorem tryFinally {program : Prog sig X} {last : Prog sig Unit} (first : program.Raises answers raised)
    (second : last.Raises answers raised) : (program.tryFinally last).Raises answers raised := by
  have guarded : (program.tryCatch (fun error => last.bind (fun _ => .raise error))).Raises answers raised :=
    tryCatch first (fun error known => bind second (fun _ => known))
  exact bind guarded (fun value => bind second (fun _ => ret value))

theorem forEach {A : Type} {body : A -> Prog sig Unit}
    (each : forall element, (body element).Raises answers raised) (elements : List A) :
    (forEach body elements).Raises answers raised := by
  induction elements with
  | nil => trivial
  | cons head tail inductionHypothesis => exact bind (each head) (fun _ => inductionHypothesis)

end Raises
end Prog

namespace Machine

variable {sig : Signature} {M : Machine sig} [DecidableEq M.Run] {answers : sig.Op -> sig.Error -> Prop}
  {raised : sig.Error -> Prop} {allowed : M.Shared -> M.Shared -> Prop} {first last : M.State} {run : M.Run}
  {job : M.Job} {rest : Prog sig (M.Result job)}

/-- On the way from the first state to the last one the run has performed an
operation that has raised this. -/
def Raised (allowed : M.Shared -> M.Shared -> Prop) (first last : M.State) (run : M.Run) (op : sig.Op)
    (choice : M.Choice) (error : sig.Error) : Prop :=
  exists before after, Path allowed first before ∧ before.pending run = some op ∧
    step before (.perform run choice) = some after ∧
    M.exec run op choice before.shared = some (after.shared, .error error) ∧ Path allowed after last

/-- A run raises only what its program raises when its operations have raised what they have. -/
theorem Path.raises_between (path : Path allowed first last) (absent : first.phase run = .absent)
    (known : forall op choice error, Raised allowed first last run op choice error -> answers op error)
    (program : (M.program run job).Raises answers raised) (running : last.phase run = .running job rest) :
    rest.Raises answers raised := by
  have along : forall middle, Path allowed first middle -> Path allowed middle last ->
      forall rest, middle.phase run = .running job rest -> rest.Raises answers raised := by
    intro middle earlier
    induction earlier with
    | refl =>
        intro _ rest running
        cases absent.symm.trans running
    | @step state next action before taken admitted inductionHypothesis =>
        intro later rest running
        have inductionHypothesis := inductionHypothesis ((Path.refl.step action taken admitted).trans later)
        rcases step_cases taken with
          ⟨other, job', shared, _, _, rfl⟩ | ⟨other, job', op, after, choice, outcome, calling, executed, rfl⟩ |
          ⟨other, job', op, after, _, rfl⟩ | ⟨event, shared, _, rfl⟩
        · by_cases same : run = other
          · subst same
            cases (State.setPhase_self state run _).symm.trans running
            exact program
          · exact inductionHypothesis _ ((State.setPhase_of_ne state _ same).symm.trans running)
        · by_cases same : run = other
          · subst same
            cases (State.setPhase_self state run _).symm.trans running
            rcases outcome with ⟨shared, error | value⟩
            · exact (inductionHypothesis _ calling).2 error
                (known op choice error ⟨state, _, before, State.pending_of_running calling, step_of_exec calling executed, executed, later⟩)
            · exact (inductionHypothesis _ calling).1 value
          · exact inductionHypothesis _ ((State.setPhase_of_ne state _ same).symm.trans running)
        · by_cases same : run = other
          · subst same
            cases (State.setPhase_self state run _).symm.trans running
          · exact inductionHypothesis _ ((State.setPhase_of_ne state _ same).symm.trans running)
        · exact inductionHypothesis _ running
  exact along last path .refl rest running

/-- The rest of a run raises only what its program raises. -/
theorem Path.raises (known : forall run op choice before after error,
      M.exec run op choice before = some (after, .error error) -> answers op error)
    {shared : M.Shared} (reached : Reachable allowed shared last)
    (program : (M.program run job).Raises answers raised) (running : last.phase run = .running job rest) :
    rest.Raises answers raised :=
  reached.raises_between rfl (fun _ _ _ ⟨_, _, _, _, _, executed, _⟩ => known _ _ _ _ _ _ executed) program running

end Machine
end Concurrency
end Payments
