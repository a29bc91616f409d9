import Payments.Concurrency.Program

namespace Payments
namespace Concurrency

/-!
# Programs whose operations are programs themselves

A program over a few coarse operations is carried out by putting a program in
the place of each operation.  Only the answers of these programs reach it, so
the coarse program shows what it decides itself, and its translation is what
runs.
-/

namespace Prog

variable {Op Op' Error : Type} {Answer : Op -> Type} {Answer' : Op' -> Type} {X Y : Type}

/-- Continue with the value or the exception of a program. -/
def settle {sig : Signature} : Prog sig X -> (Except sig.Error X -> Prog sig Y) -> Prog sig Y
  | .ret value, rest => rest (.ok value)
  | .raise error, rest => rest (.error error)
  | .call op next, rest => .call op (fun answer => (next answer).settle rest)

/-- Put a program in the place of every operation. -/
def translate (calls : (op : Op) -> Prog ⟨Op', Answer', Error⟩ (Answer op)) :
    Prog ⟨Op, Answer, Error⟩ X -> Prog ⟨Op', Answer', Error⟩ X
  | .ret value => .ret value
  | .raise error => .raise error
  | .call op next => (calls op).settle (fun answer => (next answer).translate calls)

variable {calls : (op : Op) -> Prog ⟨Op', Answer', Error⟩ (Answer op)}

theorem settle_bind {sig : Signature} {Z : Type} (program : Prog sig X) (rest : Except sig.Error X -> Prog sig Y)
    (last : Y -> Prog sig Z) :
    (program.settle rest).bind last = program.settle (fun outcome => (rest outcome).bind last) := by
  induction program with
  | ret value => rfl
  | raise error => rfl
  | call op next inductionHypothesis =>
      simp only [settle, Prog.bind, inductionHypothesis]

theorem settle_tryCatch {sig : Signature} (program : Prog sig X) (rest : Except sig.Error X -> Prog sig Y)
    (handler : sig.Error -> Prog sig Y) :
    (program.settle rest).tryCatch handler = program.settle (fun outcome => (rest outcome).tryCatch handler) := by
  induction program with
  | ret value => rfl
  | raise error => rfl
  | call op next inductionHypothesis =>
      simp only [settle, Prog.tryCatch, inductionHypothesis]

theorem settle_raised {sig : Signature} (program : Prog sig X) :
    program.settle (fun outcome => match outcome with
      | .ok value => .ret value
      | .error error => .raise error) = program := by
  induction program with
  | ret value => rfl
  | raise error => rfl
  | call op next inductionHypothesis =>
      simp only [settle, inductionHypothesis]

/-- The translation goes along the structure of programs. -/
theorem translate_bind (program : Prog ⟨Op, Answer, Error⟩ X) (rest : X -> Prog ⟨Op, Answer, Error⟩ Y) :
    (program >>= rest).translate calls = program.translate calls >>= fun value => (rest value).translate calls := by
  change (program.bind rest).translate calls = (program.translate calls).bind _
  induction program with
  | ret value => rfl
  | raise error => rfl
  | call op next inductionHypothesis =>
      simp only [Prog.bind, translate, settle_bind, inductionHypothesis]

theorem translate_tryCatch (program : Prog ⟨Op, Answer, Error⟩ X) (handler : Error -> Prog ⟨Op, Answer, Error⟩ X) :
    (program.tryCatch handler).translate calls =
      (program.translate calls).tryCatch (fun error => (handler error).translate calls) := by
  induction program with
  | ret value => rfl
  | raise error => rfl
  | call op next inductionHypothesis =>
      simp only [Prog.tryCatch, translate, settle_tryCatch, inductionHypothesis]

theorem translate_perform (op : Op) :
    (@perform ⟨Op, Answer, Error⟩ op).translate calls = calls op := by
  refine Eq.trans (congrArg (calls op).settle ?_) (settle_raised (calls op))
  funext answer
  cases answer <;> rfl

/-- A program that goes on in one way after a value and in another one after an exception. -/
theorem guarded_eq_settle {sig : Signature} {Z : Type} (program : Prog sig X) (value : X -> Y)
    (handler : sig.Error -> Prog sig Y) (rest : Y -> Prog sig Z) :
    ((program >>= fun found => pure (value found)).tryCatch handler >>= rest) =
      program.settle (fun outcome => match outcome with
        | .ok found => rest (value found)
        | .error error => handler error >>= rest) := by
  change ((program.bind fun found => .ret (value found)).tryCatch handler).bind rest = _
  induction program with
  | ret found => rfl
  | raise error => rfl
  | call op next inductionHypothesis =>
      simp only [Prog.bind, Prog.tryCatch, settle, inductionHypothesis]

end Prog
end Concurrency
end Payments
