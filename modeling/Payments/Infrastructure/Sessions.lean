import Payments.Concurrency.Evaluations
import Payments.Infrastructure.Repositories

namespace Payments
namespace Infrastructure

open Concurrency Domain Prog

/-!
# Calls of one session

A session executes the operations of a repository call one after the other.
What may interrupt an operation is a parameter, so that a result about the
calls that nothing interrupts is a case of a result about all calls.
-/

/-- The session executes the operation, which only an admitted interruption may interrupt. -/
def Performs (admits : Interruption -> Prop) (run : RunId) (op : Op) (before : World) (answer : Except Error op.Answer)
    (after : World) : Prop :=
  Exists fun choice : Choice => (forall interruption, choice.interruption = some interruption -> admits interruption) ∧
    World.exec run op choice before = some (after, answer)

/-- The session executes the whole call, with nothing in between. -/
def Executes {X : Type} (run : RunId) (program : Program X) (before : World) (outcome : Except Error X) (after : World) :
    Prop :=
  Evaluates (fun first second : World => second = first) (Performs (fun _ => True) run) program before outcome after

variable {X : Type} {run : RunId} {op : Op} {before after : World}

theorem executes_await {answer : op.Answer} :
    Executes run (await op) before (.ok answer) after <->
      Exists fun choice => World.exec run op choice before = some (after, .ok answer) := by
  constructor
  · intro executes
    rcases executes.of_perform with ⟨same, rfl, choice, _, executed⟩
    exact ⟨choice, executed⟩
  · rintro ⟨choice, executed⟩
    exact .call rfl ⟨choice, fun _ _ => trivial, executed⟩ (.ret answer after)

/-- A call that is one statement and a look at its answer. -/
theorem executes_returning {value : op.Answer -> X} {result : X} :
    Executes run (await op >>= fun answer => pure (value answer)) before (.ok result) after <->
      exists choice answer, World.exec run op choice before = some (after, .ok answer) ∧ result = value answer := by
  constructor
  · intro executes
    rcases executes.of_bind_ok with ⟨answer, middle, executing, returned⟩
    rcases returned.of_pure with ⟨same, rfl⟩
    rcases executes_await.mp executing with ⟨choice, executed⟩
    exact ⟨choice, answer, executed, Except.ok.inj same⟩
  · rintro ⟨choice, answer, executed, rfl⟩
    exact .call rfl ⟨choice, fun _ _ => trivial, executed⟩ (.ret _ after)

end Infrastructure
end Payments
