import Payments.Concurrency.Program

namespace Payments
namespace Concurrency

/-!
# Programs under an oracle

An oracle answers every operation, and may look at all that has been called
before.  Where it gives no answer the call never returns.  A program that is
followed under an oracle ends in one way only, so a statement about all
oracles is one about every sequence of answers.
-/

namespace Prog

variable {sig : Signature} {X Y : Type}

/-- What the calls so far and the next operation are answered with, if at all. -/
def Oracle (sig : Signature) : Type :=
  List sig.Op -> (op : sig.Op) -> Option (Except sig.Error (sig.Answer op))

/-- The calls of a program, oldest first, and its end.  Without an end it waits
for its last call. -/
def follow (oracle : Oracle sig) : List sig.Op -> Prog sig X -> List sig.Op × Option (Except sig.Error X)
  | called, .ret value => (called, some (.ok value))
  | called, .raise error => (called, some (.error error))
  | called, .call op next =>
      match oracle called op with
      | none => (called ++ [op], none)
      | some answer => (next answer).follow oracle (called ++ [op])

/-- Hand the value of a program that has been followed to the rest of a sequence. -/
def proceed (oracle : Oracle sig) (rest : X -> Prog sig Y) :
    List sig.Op × Option (Except sig.Error X) -> List sig.Op × Option (Except sig.Error Y)
  | (called, some (.ok value)) => (rest value).follow oracle called
  | (called, some (.error error)) => (called, some (.error error))
  | (called, none) => (called, none)

/-- Hand the exception of a program that has been followed to a handler. -/
def rescue (oracle : Oracle sig) (handler : sig.Error -> Prog sig X) :
    List sig.Op × Option (Except sig.Error X) -> List sig.Op × Option (Except sig.Error X)
  | (called, some (.ok value)) => (called, some (.ok value))
  | (called, some (.error error)) => (handler error).follow oracle called
  | (called, none) => (called, none)

variable (oracle : Oracle sig) (called : List sig.Op)

theorem follow_bind (program : Prog sig X) (rest : X -> Prog sig Y) :
    (program >>= rest).follow oracle called = proceed oracle rest (program.follow oracle called) := by
  change (program.bind rest).follow oracle called = _
  induction program generalizing called with
  | ret value => rfl
  | raise error => rfl
  | call op next inductionHypothesis =>
      rw [Prog.bind, follow, follow]
      cases oracle called op with
      | none => rfl
      | some answer => exact inductionHypothesis answer (called ++ [op])

theorem follow_tryCatch (program : Prog sig X) (handler : sig.Error -> Prog sig X) :
    (program.tryCatch handler).follow oracle called = rescue oracle handler (program.follow oracle called) := by
  induction program generalizing called with
  | ret value => rfl
  | raise error => rfl
  | call op next inductionHypothesis =>
      rw [Prog.tryCatch, follow, follow]
      cases oracle called op with
      | none => rfl
      | some answer => exact inductionHypothesis answer (called ++ [op])

theorem follow_perform (op : sig.Op) :
    (perform op).follow oracle called = (called ++ [op], oracle called op) := by
  rw [perform, follow]
  cases oracle called op with
  | none => rfl
  | some answer => cases answer <;> rfl

end Prog
end Concurrency
end Payments
