import Payments.Concurrency.RelyGuarantee

namespace Payments
namespace Concurrency

/-!
# What one program asks for

A verified discipline fixes once what the operations of all runs need.  A
question about one program only, such as the arguments it computes from its
earlier answers, is asked with other permissions in place of those of the
discipline.  The other runs are still known to respect the discipline, so the
assertions of the discipline may be used to answer it.
-/

variable {sig : Signature} {M : Machine sig} {D : Discipline M}
  {asks : M.Run -> sig.Op -> M.Shared -> Prop} {X : Type} {run : M.Run}

/-- The same discipline, with a question in the place of its permissions. -/
def Discipline.asking (D : Discipline M) (asks : M.Run -> sig.Op -> M.Shared -> Prop) : Discipline M :=
  { D with permits := asks }

namespace Discipline

/-- The assertions do not depend on the permissions. -/
def Assertion.asking (known : D.Assertion run) : (D.asking asks).Assertion run where
  holds := known.holds
  stable := known.stable

@[simp] theorem Assertion.asking_holds (known : D.Assertion run) (state : M.Shared) :
    (known.asking : (D.asking asks).Assertion run) state = known state :=
  rfl

/-- Where the question does not concern the operations of a program, what has
been shown of this program is an answer. -/
theorem Safe.asking {allowed : sig.Op -> Prop} {post : X -> D.Assertion run}
    {error : sig.Error -> D.Assertion run} (unconcerned : forall op, allowed op -> forall state, asks run op state)
    {program : Prog sig X} (calls : program.OnlyCalls allowed) {state : M.Shared}
    (safe : D.Safe run post error program state) :
    (D.asking asks).Safe run (fun value => (post value).asking) (fun raised => (error raised).asking)
      program state := by
  induction program generalizing state with
  | ret value => exact safe
  | raise raised => exact safe
  | call op next inductionHypothesis =>
      intro later rely inv
      refine ⟨unconcerned op calls.1 later, fun choice after answer executed inv' evolves => ?_⟩
      exact inductionHypothesis answer (calls.2 answer) ((safe later rely inv).2 choice after answer executed inv' evolves)

theorem Triple.asking {allowed : sig.Op -> Prop} {pre : D.Assertion run} {post : X -> D.Assertion run}
    {error : sig.Error -> D.Assertion run} (unconcerned : forall op, allowed op -> forall state, asks run op state)
    {program : Prog sig X} (calls : program.OnlyCalls allowed) (triple : D.Triple pre program post error) :
    (D.asking asks).Triple pre.asking program (fun value => (post value).asking)
      (fun raised => (error raised).asking) :=
  fun state inv holds => (triple state inv holds).asking unconcerned calls

/-- A program with whose operations the question has nothing to do answers it anyway. -/
theorem Triple.unconcerned {allowed : sig.Op -> Prop} {pre : (D.asking asks).Assertion run}
    (unconcerned : forall op, allowed op -> forall state, asks run op state) {program : Prog sig X}
    (calls : program.OnlyCalls allowed) :
    (D.asking asks).Triple pre program (fun _ => .fact True) (fun _ => .fact True) := by
  have unknown : (D.asking asks).Triple (.fact True) program (fun _ => .fact True) (fun _ => .fact True) :=
    Triple.of_onlyCalls (.fact True) (fun op listed state _ _ => unconcerned op listed state)
      (fun _ _ _ _ _ _ _ _ _ _ => trivial) (fun _ _ _ _ => trivial) (fun _ _ _ _ => trivial) calls
  exact unknown.strengthen (fun _ _ _ => trivial)

namespace Verified

variable [DecidableEq M.Run] {initial : M.Shared} {verified : D.Verified initial}

/-- A step of the system keeps the answers that are known about the rest of a run. -/
theorem Holds.follow_asking {state next : M.State} {action : M.Action} (holds : verified.Holds state)
    (taken : Machine.step state action = some next) (admitted : D.allowed state.shared next.shared)
    {job : M.Job} {rest rest' : Prog sig (M.Result job)} (running : state.phase run = .running job rest)
    (later : next.phase run = .running job rest') {post : M.Result job -> (D.asking asks).Assertion run}
    {error : sig.Error -> (D.asking asks).Assertion run}
    (safe : (D.asking asks).Safe run post error rest state.shared) :
    (D.asking asks).Safe run post error rest' next.shared := by
  have stays : forall {after : M.Shared}, D.Rely run state.shared after -> D.inv after -> rest' = rest ->
      (D.asking asks).Safe run post error rest' after := by
    rintro after rely inv rfl
    exact safe.stable rely inv
  rcases Machine.step_cases taken with
    ⟨other, job', shared, absent, started, rfl⟩ |
    ⟨other, job', op, next, choice, outcome, calling, executed, rfl⟩ |
    ⟨other, job', op, next, calling, rfl⟩ | ⟨event, shared, happened, rfl⟩
  · have different : run ≠ other := by
      rintro rfl
      rw [running] at absent
      cases absent
    have kept := verified.upheld.starts other job' state.shared shared holds.inv started admitted
    have same := (Machine.State.setPhase_of_ne state _ different).symm.trans later
    rw [running] at same
    cases same
    exact stays (kept.rely different) kept.1 rfl
  · have kept := verified.upheld.operations other op choice state.shared outcome.1 outcome.2 holds.inv
      (holds.permitted calling) executed admitted
    by_cases same : run = other
    · subst same
      rw [running] at calling
      cases calling
      have moved := (Machine.State.setPhase_self state run _).symm.trans later
      cases moved
      exact (safe state.shared (Rely.refl D run state.shared) holds.inv).2 choice outcome.1 outcome.2
        executed kept.1 kept.2.1
    · have unmoved := (Machine.State.setPhase_of_ne state _ same).symm.trans later
      rw [running] at unmoved
      cases unmoved
      exact stays (kept.rely same) kept.1 rfl
  · have kept := verified.upheld.crashes other state.shared holds.inv admitted
    by_cases same : run = other
    · subst same
      have crashed := (Machine.State.setPhase_self state run _).symm.trans later
      cases crashed
    · have unmoved := (Machine.State.setPhase_of_ne state _ same).symm.trans later
      rw [running] at unmoved
      cases unmoved
      exact stays (kept.rely same) kept.1 rfl
  · have kept := verified.upheld.environment event state.shared shared holds.inv happened admitted
    have unmoved : Machine.Phase.running job rest = .running job rest' := running.symm.trans later
    cases unmoved
    exact stays ⟨kept.2.2 run, kept.2.1⟩ kept.1 rfl

/-- If every program of a job answers the question, so does the operation that
a run of this job is about to execute in any state of the system. -/
theorem asked (verified : D.Verified initial) {job : M.Job} {post : M.Result job -> (D.asking asks).Assertion run}
    {error : sig.Error -> (D.asking asks).Assertion run}
    (program : forall state after, D.inv state -> verified.idle run state -> M.start job run state = some after ->
      D.inv after -> D.evolves state after -> (D.asking asks).Safe run post error (M.program run job) after)
    {state : M.State} (reached : Machine.Reachable D.allowed initial state) {op : sig.Op}
    {next : Except sig.Error (sig.Answer op) -> Prog sig (M.Result job)}
    (running : state.phase run = .running job (.call op next)) : asks run op state.shared := by
  have answers : forall rest, state.phase run = .running job rest ->
      (D.asking asks).Safe run post error rest state.shared := by
    clear running
    induction reached with
    | refl =>
        intro rest impossible
        cases impossible
    | @step before after action earlier taken admitted inductionHypothesis =>
        intro rest later
        have holds := verified.sound earlier
        rcases Machine.running_before taken later with ⟨rest', before_running⟩ | ⟨shared, absent, started, rfl⟩
        · exact holds.follow_asking taken admitted before_running later
            (inductionHypothesis rest' before_running)
        · have kept := verified.upheld.starts run job before.shared shared holds.inv started admitted
          have begun := (Machine.State.setPhase_self before run _).symm.trans later
          cases begun
          exact program before.shared shared holds.inv (holds.absent run absent) started kept.1 kept.2.1
  exact (answers _ running state.shared (Rely.refl D run state.shared) (verified.invariant reached)).1

end Verified
end Discipline
end Concurrency
end Payments
