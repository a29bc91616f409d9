import Mathlib.Logic.Basic

namespace Payments
namespace Concurrency

/-!
# Programs that call operations of a shared environment

A program is a finite tree: it returns a value, raises an exception, or calls
one operation and continues with whatever the environment answers.  An answer
is either a value of the operation's type or an exception, so that every call
is a point at which the program may be interrupted.

Nothing here says what an operation does.  The meaning of operations is given
by a `Machine`, and the same program text can therefore be run alone or
interleaved with any number of others.
-/

/-- The operations of an environment, the type each one answers with, and the
exceptions that operations and programs raise. -/
structure Signature where
  Op : Type
  Answer : Op -> Type
  Error : Type

inductive Prog (sig : Signature) (X : Type) : Type where
  | ret (value : X)
  | raise (error : sig.Error)
  | call (op : sig.Op) (next : Except sig.Error (sig.Answer op) -> Prog sig X)

namespace Prog

variable {sig : Signature} {X Y : Type}

/-- Run the first program and hand its value to the second.  An exception of
the first program skips the second one. -/
def bind : Prog sig X -> (X -> Prog sig Y) -> Prog sig Y
  | .ret value, rest => rest value
  | .raise error, _ => .raise error
  | .call op next, rest => .call op (fun answer => (next answer).bind rest)

/-- `try first except error: handler(error)`. -/
def tryCatch : Prog sig X -> (sig.Error -> Prog sig X) -> Prog sig X
  | .ret value, _ => .ret value
  | .raise error, handler => handler error
  | .call op next, handler => .call op (fun answer => (next answer).tryCatch handler)

instance : Monad (Prog sig) where
  pure := .ret
  bind := bind

/-- Call one operation; an exceptional answer is raised at the call. -/
def perform (op : sig.Op) : Prog sig (sig.Answer op) :=
  .call op (fun answer =>
    match answer with
    | .ok value => .ret value
    | .error error => .raise error)

/-- A pure computation that may raise. -/
def ofExcept : Except sig.Error X -> Prog sig X
  | .ok value => .ret value
  | .error error => .raise error

/-- `try: first finally: last`.  The exception of `last` wins over the one
of `first`, and a normal end of `last` leaves the outcome of `first`. -/
def tryFinally (first : Prog sig X) (last : Prog sig Unit) : Prog sig X :=
  (first.tryCatch (fun error => last.bind (fun _ => .raise error))).bind
    (fun value => last.bind (fun _ => .ret value))

/-- Run a program for each element, in order. -/
def forEach {A : Type} (body : A -> Prog sig Unit) : List A -> Prog sig Unit
  | [] => .ret ()
  | head :: tail => (body head).bind (fun _ => forEach body tail)

/-- Every operation the program can come to call satisfies the predicate. -/
def OnlyCalls (allowed : sig.Op -> Prop) : Prog sig X -> Prop
  | .ret _ => True
  | .raise _ => True
  | .call op next => allowed op ∧ forall answer, (next answer).OnlyCalls allowed

/-- Whatever the operations answer, the program returns such values only. -/
def Returns (value : X -> Prop) : Prog sig X -> Prop
  | .ret result => value result
  | .raise _ => True
  | .call _ next => forall answer, (next answer).Returns value

namespace Returns

theorem ret {value : X -> Prop} {result : X} (known : value result) :
    (pure result : Prog sig X).Returns value :=
  known

theorem bind {value : Y -> Prop} {program : Prog sig X} {rest : X -> Prog sig Y}
    (second : forall result, (rest result).Returns value) : (program >>= rest).Returns value := by
  change (program.bind rest).Returns value
  induction program with
  | ret result => exact second result
  | raise error => trivial
  | call op next inductionHypothesis => exact inductionHypothesis

end Returns

namespace OnlyCalls

variable {allowed : sig.Op -> Prop}

theorem ret (value : X) : (pure value : Prog sig X).OnlyCalls allowed := trivial

theorem raise (error : sig.Error) : (.raise error : Prog sig X).OnlyCalls allowed := trivial

theorem perform {op : sig.Op} (admitted : allowed op) : (perform op).OnlyCalls allowed := by
  refine ⟨admitted, fun answer => ?_⟩
  cases answer <;> trivial

theorem ofExcept (outcome : Except sig.Error X) : (ofExcept outcome).OnlyCalls allowed := by
  cases outcome <;> trivial

theorem bind {program : Prog sig X} {rest : X -> Prog sig Y} (first : program.OnlyCalls allowed)
    (second : forall value, (rest value).OnlyCalls allowed) : (program >>= rest).OnlyCalls allowed := by
  change (program.bind rest).OnlyCalls allowed
  induction program with
  | ret value => exact second value
  | raise error => trivial
  | call op next inductionHypothesis =>
      exact ⟨first.1, fun answer => inductionHypothesis answer (first.2 answer)⟩

theorem tryCatch {program : Prog sig X} {handler : sig.Error -> Prog sig X}
    (first : program.OnlyCalls allowed) (second : forall error, (handler error).OnlyCalls allowed) :
    (program.tryCatch handler).OnlyCalls allowed := by
  induction program with
  | ret value => trivial
  | raise error => exact second error
  | call op next inductionHypothesis =>
      exact ⟨first.1, fun answer => inductionHypothesis answer (first.2 answer)⟩

theorem tryFinally {program : Prog sig X} {last : Prog sig Unit} (first : program.OnlyCalls allowed)
    (second : last.OnlyCalls allowed) : (program.tryFinally last).OnlyCalls allowed :=
  bind (tryCatch first (fun _ => bind second (fun _ => raise _)))
    (fun _ => bind second (fun _ => ret _))

theorem forEach {A : Type} {body : A -> Prog sig Unit} (each : forall element, (body element).OnlyCalls allowed)
    (elements : List A) : (forEach body elements).OnlyCalls allowed := by
  induction elements with
  | nil => trivial
  | cons head tail inductionHypothesis => exact bind (each head) (fun _ => inductionHypothesis)

/-- The rest of a program is entered with values the first part can return only. -/
theorem bind_returns {program : Prog sig X} {rest : X -> Prog sig Y} {value : X -> Prop}
    (first : program.OnlyCalls allowed) (returns : program.Returns value)
    (second : forall result, value result -> (rest result).OnlyCalls allowed) :
    (program >>= rest).OnlyCalls allowed := by
  change (program.bind rest).OnlyCalls allowed
  induction program with
  | ret result => exact second result returns
  | raise error => trivial
  | call op next inductionHypothesis =>
      exact ⟨first.1, fun answer => inductionHypothesis answer (first.2 answer) (returns answer)⟩

/-- A computation that raises skips the rest. -/
theorem ofExcept_bind {outcome : Except sig.Error X} {rest : X -> Prog sig Y}
    (second : forall value, outcome = .ok value -> (rest value).OnlyCalls allowed) :
    (Prog.ofExcept outcome >>= rest).OnlyCalls allowed := by
  cases outcome with
  | ok value => exact second value rfl
  | error error => trivial

theorem forEach_mem {A : Type} {body : A -> Prog sig Unit} {elements : List A}
    (each : forall element, element ∈ elements -> (body element).OnlyCalls allowed) :
    (Prog.forEach body elements).OnlyCalls allowed := by
  induction elements with
  | nil => trivial
  | cons head tail inductionHypothesis =>
      refine bind (each head List.mem_cons_self) (fun _ => inductionHypothesis (fun element listed => ?_))
      exact each element (List.mem_cons_of_mem _ listed)

theorem mono {weaker : sig.Op -> Prop} {program : Prog sig X} (calls : program.OnlyCalls allowed)
    (implied : forall op, allowed op -> weaker op) : program.OnlyCalls weaker := by
  induction program with
  | ret value => trivial
  | raise error => trivial
  | call op next inductionHypothesis =>
      exact ⟨implied op calls.1, fun answer => inductionHypothesis answer (calls.2 answer)⟩

/-! What only calls such operations does so in each of its parts. -/

theorem of_bind {program : Prog sig X} {rest : X -> Prog sig Y} (calls : (program >>= rest).OnlyCalls allowed) :
    program.OnlyCalls allowed := by
  have calls : (program.bind rest).OnlyCalls allowed := calls
  induction program with
  | ret value => trivial
  | raise error => trivial
  | call op next inductionHypothesis =>
      exact ⟨calls.1, fun answer => inductionHypothesis answer (calls.2 answer) (calls.2 answer)⟩

theorem of_tryCatch {program : Prog sig X} {handler : sig.Error -> Prog sig X}
    (calls : (program.tryCatch handler).OnlyCalls allowed) : program.OnlyCalls allowed := by
  induction program with
  | ret value => trivial
  | raise error => trivial
  | call op next inductionHypothesis =>
      exact ⟨calls.1, fun answer => inductionHypothesis answer (calls.2 answer)⟩

theorem of_tryFinally {program : Prog sig X} {last : Prog sig Unit}
    (calls : (program.tryFinally last).OnlyCalls allowed) : program.OnlyCalls allowed :=
  of_tryCatch (of_bind calls)

end OnlyCalls
end Prog
end Concurrency
end Payments
