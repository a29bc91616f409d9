import Payments.Concurrency.RelyGuarantee

namespace Payments
namespace Concurrency

/-!
# What a program has been through when it has ended

A run that has ended has performed the operations of its program one after the
other, and between two of them the other runs did what they wanted.  An
evaluation is such an execution seen from its end.  It may be taken apart along
the program, so a result of a program is traced back to the states in which
its operations were performed.
-/

namespace Prog

variable {sig : Signature} {X Y S : Type} {between : S -> S -> Prop}
  {performs : (op : sig.Op) -> S -> Except sig.Error (sig.Answer op) -> S -> Prop}

/-- The program has come from the first state to the last one with this outcome. -/
inductive Evaluates (between : S -> S -> Prop)
    (performs : (op : sig.Op) -> S -> Except sig.Error (sig.Answer op) -> S -> Prop) :
    Prog sig X -> S -> Except sig.Error X -> S -> Prop where
  | ret (value : X) (state : S) : Evaluates between performs (.ret value) state (.ok value) state
  | raise (error : sig.Error) (state : S) : Evaluates between performs (.raise error) state (.error error) state
  | call {op : sig.Op} {next : Except sig.Error (sig.Answer op) -> Prog sig X} {first before after last : S}
      {answer : Except sig.Error (sig.Answer op)} {outcome : Except sig.Error X} (others : between first before)
      (performed : performs op before answer after)
      (rest : Evaluates between performs (next answer) after outcome last) :
      Evaluates between performs (.call op next) first outcome last

namespace Evaluates

/-- A sequence ends in its second program, or its first one has raised. -/
theorem of_bind {program : Prog sig X} {rest : X -> Prog sig Y} {first last : S} {outcome : Except sig.Error Y}
    (evaluates : Evaluates between performs (program >>= rest) first outcome last) :
    (exists value middle, Evaluates between performs program first (.ok value) middle ∧
      Evaluates between performs (rest value) middle outcome last) ∨
      Exists fun error => outcome = .error error ∧ Evaluates between performs program first (.error error) last := by
  have evaluates : Evaluates between performs (program.bind rest) first outcome last := evaluates
  induction program generalizing first with
  | ret value => exact .inl ⟨value, first, .ret value first, evaluates⟩
  | raise error =>
      cases evaluates
      exact .inr ⟨error, rfl, .raise error _⟩
  | call op next inductionHypothesis =>
      cases evaluates with
      | call others performed remaining =>
          rcases inductionHypothesis _ remaining remaining with ⟨value, middle, before, after⟩ | ⟨error, same, raised⟩
          · exact .inl ⟨value, middle, .call others performed before, after⟩
          · exact .inr ⟨error, same, .call others performed raised⟩

theorem bind {program : Prog sig X} {rest : X -> Prog sig Y} {first middle last : S} {value : X}
    {outcome : Except sig.Error Y} (before : Evaluates between performs program first (.ok value) middle)
    (after : Evaluates between performs (rest value) middle outcome last) :
    Evaluates between performs (program >>= rest) first outcome last := by
  change Evaluates between performs (program.bind rest) first outcome last
  induction program generalizing first with
  | ret found =>
      cases before
      exact after
  | raise error => cases before
  | call op next inductionHypothesis =>
      cases before with
      | call others performed remaining => exact .call others performed (inductionHypothesis _ remaining)

theorem of_bind_ok {program : Prog sig X} {rest : X -> Prog sig Y} {first last : S} {value : Y}
    (evaluates : Evaluates between performs (program >>= rest) first (.ok value) last) :
    exists found middle, Evaluates between performs program first (.ok found) middle ∧
      Evaluates between performs (rest found) middle (.ok value) last := by
  rcases evaluates.of_bind with parts | ⟨error, impossible, _⟩
  · exact parts
  · cases impossible

theorem of_tryCatch {program : Prog sig X} {handler : sig.Error -> Prog sig X} {first last : S}
    {outcome : Except sig.Error X}
    (evaluates : Evaluates between performs (program.tryCatch handler) first outcome last) :
    (Exists fun value => outcome = .ok value ∧ Evaluates between performs program first (.ok value) last) ∨
      exists error middle, Evaluates between performs program first (.error error) middle ∧
        Evaluates between performs (handler error) middle outcome last := by
  induction program generalizing first with
  | ret value =>
      cases evaluates
      exact .inl ⟨value, rfl, .ret value _⟩
  | raise error => exact .inr ⟨error, first, .raise error first, evaluates⟩
  | call op next inductionHypothesis =>
      cases evaluates with
      | call others performed remaining =>
          rcases inductionHypothesis _ remaining with ⟨value, same, returned⟩ | ⟨error, middle, raised, handled⟩
          · exact .inl ⟨value, same, .call others performed returned⟩
          · exact .inr ⟨error, middle, .call others performed raised, handled⟩

/-- A handler that raises again is not what a value comes from. -/
theorem of_reraised {program : Prog sig X} {last : Prog sig Unit} {first final : S} {value : X}
    (evaluates : Evaluates between performs
      (program.tryCatch (fun error => last.bind (fun _ => .raise error))) first (.ok value) final) :
    Evaluates between performs program first (.ok value) final := by
  rcases evaluates.of_tryCatch with ⟨found, same, returned⟩ | ⟨error, middle, _, handled⟩
  · cases same
    exact returned
  · rcases of_bind_ok handled with ⟨_, _, _, impossible⟩
    cases impossible

/-- What ends with a value under `finally` has returned it before. -/
theorem of_tryFinally {program : Prog sig X} {last : Prog sig Unit} {first final : S} {value : X}
    (evaluates : Evaluates between performs (program.tryFinally last) first (.ok value) final) :
    Exists fun middle => Evaluates between performs program first (.ok value) middle ∧
      Evaluates between performs last middle (.ok ()) final := by
  rcases of_bind_ok evaluates with ⟨found, middle, guarded, closing⟩
  rcases of_bind_ok closing with ⟨_, later, closed, returned⟩
  cases returned
  exact ⟨middle, guarded.of_reraised, closed⟩

theorem of_perform {op : sig.Op} {first last : S} {outcome : Except sig.Error (sig.Answer op)}
    (evaluates : Evaluates between performs (perform op) first outcome last) :
    Exists fun before => between first before ∧ performs op before outcome last := by
  cases evaluates with
  | @call _ _ _ before after _ answer _ others performed rest =>
      cases answer with
      | ok value =>
          cases rest
          exact ⟨before, others, performed⟩
      | error error =>
          cases rest
          exact ⟨before, others, performed⟩

theorem of_ofExcept {computed : Except sig.Error X} {first last : S} {outcome : Except sig.Error X}
    (evaluates : Evaluates between performs (ofExcept computed) first outcome last) :
    outcome = computed ∧ last = first := by
  cases computed <;> cases evaluates <;> exact ⟨rfl, rfl⟩

theorem of_pure {value : X} {first last : S} {outcome : Except sig.Error X}
    (evaluates : Evaluates between performs (pure value) first outcome last) :
    outcome = .ok value ∧ last = first := by
  cases evaluates
  exact ⟨rfl, rfl⟩

end Evaluates
end Prog

/-! ## Evaluations in a verified system -/

namespace Discipline

variable {sig : Signature} {M : Machine sig} [DecidableEq M.Run] {D : Discipline M} {initial : M.Shared}

/-- A part of a path on which the run only waits. -/
def Waits (D : Discipline M) (run : M.Run) (before after : M.State) : Prop :=
  Machine.Path D.allowed before after ∧ D.Rely run before.shared after.shared

/-- The step of a path with which the run performs an operation. -/
def Performed (D : Discipline M) (run : M.Run) (op : sig.Op) (before : M.State)
    (answer : Except sig.Error (sig.Answer op)) (after : M.State) : Prop :=
  Machine.Path D.allowed before after ∧ before.pending run = some op ∧
    Exists fun choice => M.exec run op choice before.shared = some (after.shared, answer)

/-- An evaluation happens along a path. -/
theorem Waits.path {X : Type} {run : M.Run} {program : Prog sig X} {first last : M.State}
    {outcome : Except sig.Error X}
    (evaluates : Prog.Evaluates (D.Waits run) (D.Performed run) program first outcome last) :
    Machine.Path D.allowed first last := by
  induction evaluates with
  | ret => exact .refl
  | raise => exact .refl
  | call others performed _ inductionHypothesis => exact (others.1.trans performed.1).trans inductionHypothesis

/-- A run that has returned has evaluated its program on the way. -/
theorem Verified.Holds.evaluates {verified : D.Verified initial} {first last : M.State}
    (holds : verified.Holds first) (path : Machine.Path D.allowed first last) {run : M.Run} {job : M.Job}
    {program : Prog sig (M.Result job)} (running : first.phase run = .running job program) {value : M.Result job}
    (returned : last.phase run = .running job (.ret value)) :
    Exists fun ended => Prog.Evaluates (D.Waits run) (D.Performed run) program first (.ok value) ended ∧
      Machine.Path D.allowed ended last := by
  induction program generalizing first with
  | ret found =>
      have same := path.ended_stays running (by simp)
      rw [returned] at same
      cases same
      exact ⟨first, .ret _ first, path⟩
  | raise error =>
      have same := path.ended_stays running (by simp)
      rw [returned] at same
      cases same
  | call op next inductionHypothesis =>
      rcases holds.performs path running with ⟨waiting, _⟩ | crashed | ⟨before, after, answer, performs, rely⟩
      · rw [returned] at waiting
        cases waiting
      · rw [returned] at crashed
        cases crashed
      · have holds' := (holds.path (performs.earlier.trans performs.taken)).1
        rcases inductionHypothesis answer holds' performs.later performs.running with ⟨ended, evaluates, later⟩
        exact ⟨ended, .call ⟨performs.earlier, rely⟩
          ⟨performs.taken, Machine.State.pending_of_running performs.waiting, performs.executed⟩ evaluates, later⟩

end Discipline
end Concurrency
end Payments
