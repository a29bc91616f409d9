import Payments.Concurrency.Machine

namespace Payments
namespace Concurrency

/-!
# What a machine does, seen from outside

A specification is a component whose steps are atomic, each under a label.  A
machine refines it through a view of the shared state when every step of the
machine is invisible or one step of the specification.  The labels of the
visible steps are the journal of a run of the machine.
-/

structure Specification (State Label : Type) where
  step : State -> Label -> State -> Prop

namespace Specification

variable {State Label : Type} {spec : Specification State Label} {first last : State}
  {journal : List Label}

/-- The runs from a state, with the labels of their steps, newest first. -/
inductive Run (spec : Specification State Label) (first : State) : List Label -> State -> Prop where
  | refl : Run spec first [] first
  | step {state next : State} {label : Label} {journal : List Label} (before : Run spec first journal state)
      (taken : spec.step state label next) : Run spec first (label :: journal) next

namespace Run

/-- What every step keeps, any number of steps keeps. -/
theorem keeps {holds : State -> Prop} (steps : forall state label next, spec.step state label next ->
    holds state -> holds next) (run : spec.Run first journal last) (initially : holds first) : holds last := by
  induction run with
  | refl => exact initially
  | step _ taken inductionHypothesis => exact steps _ _ _ taken inductionHypothesis

/-- A relation that every step respects holds between the two ends of a run. -/
theorem relates {related : State -> State -> Prop} (reflexive : forall state, related state state)
    (transitive : forall state next after, related state next -> related next after -> related state after)
    (steps : forall state label next, spec.step state label next -> related state next)
    (run : spec.Run first journal last) : related first last :=
  run.keeps (fun state _ next taken before => transitive first state next before (steps _ _ _ taken)) (reflexive first)

end Run

/-- Every step of the machine is invisible or one step of the specification. -/
structure Refines {sig : Signature} (M : Machine sig) [DecidableEq M.Run] (initial : M.Shared)
    (spec : Specification State Label) (view : M.Shared -> State) : Prop where
  steps : forall (state next : M.State) action, Machine.Reachable (fun _ _ => True) initial state ->
    Machine.step state action = some next ->
    view next.shared = view state.shared ∨ Exists fun label => spec.step (view state.shared) label (view next.shared)

variable {sig : Signature} {M : Machine sig} [DecidableEq M.Run] {initial : M.Shared} {view : M.Shared -> State}

/-- Between two states of a run of the machine lies a run of the specification. -/
theorem Refines.run (refines : Refines M initial spec view) {state later : M.State}
    (reached : Machine.Reachable (fun _ _ => True) initial state) (path : Machine.Path (fun _ _ => True) state later) :
    Exists fun journal => spec.Run (view state.shared) journal (view later.shared) := by
  induction path with
  | refl => exact ⟨[], .refl⟩
  | step action before taken _ inductionHypothesis =>
      rcases inductionHypothesis with ⟨journal, run⟩
      rcases refines.steps _ _ action (reached.trans before) taken with same | ⟨label, visible⟩
      · exact ⟨journal, same ▸ run⟩
      · exact ⟨label :: journal, run.step visible⟩

end Specification
end Concurrency
end Payments
