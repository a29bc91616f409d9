import Payments.Concurrency.Program

namespace Payments
namespace Concurrency

/-!
# Any number of programs over one shared state

A machine gives the operations of a signature their meaning on a shared state
and names the jobs that may be run.  A run executes the program of its job one
operation at a time, so the runs interleave at every operation in any order.

Whatever the code does not decide is a `Choice` of the scheduler: which answer
an external service gives, what a clock shows, whether a call fails.  A run may
also crash between any two operations, and the environment may change the
shared state on its own.
-/

structure Machine (sig : Signature) where
  Shared : Type
  Run : Type
  Choice : Type
  Job : Type
  Result : Job -> Type
  Env : Type
  /-- The program of a job, which may mention the run that executes it. -/
  program : Run -> (job : Job) -> Prog sig (Result job)
  /-- The effect of one operation, or `none` while it has to wait. -/
  exec : Run -> (op : sig.Op) -> Choice -> Shared -> Option (Shared × Except sig.Error (sig.Answer op))
  /-- The effect of starting a job, or `none` when it may not start now. -/
  start : Job -> Run -> Shared -> Option Shared
  crash : Run -> Shared -> Shared
  env : Env -> Shared -> Option Shared

namespace Machine

variable {sig : Signature} (M : Machine sig)

/-- Where a run is: not yet started, with a rest of its program to execute,
or dead.  A run whose rest is `ret` or `raise` has ended. -/
inductive Phase where
  | absent
  | running (job : M.Job) (rest : Prog sig (M.Result job))
  | crashed

structure State where
  shared : M.Shared
  phase : M.Run -> M.Phase

inductive Action where
  | start (run : M.Run) (job : M.Job)
  | perform (run : M.Run) (choice : M.Choice)
  | crash (run : M.Run)
  | env (event : M.Env)

variable {M}

def State.setPhase [DecidableEq M.Run] (state : M.State) (run : M.Run) (phase : M.Phase) :
    M.Run -> M.Phase :=
  fun other => if other = run then phase else state.phase other

@[simp] theorem State.setPhase_self [DecidableEq M.Run] (state : M.State) (run : M.Run)
    (phase : M.Phase) : state.setPhase run phase run = phase :=
  if_pos rfl

theorem State.setPhase_of_ne [DecidableEq M.Run] (state : M.State) {run other : M.Run}
    (phase : M.Phase) (different : other ≠ run) :
    state.setPhase run phase other = state.phase other :=
  if_neg different

/-- The operation a run is about to execute. -/
def State.pending (state : M.State) (run : M.Run) : Option sig.Op :=
  match state.phase run with
  | .running _ (.call op _) => some op
  | _ => none

theorem State.pending_of_running {state : M.State} {run : M.Run} {job : M.Job} {op : sig.Op}
    {next : Except sig.Error (sig.Answer op) -> Prog sig (M.Result job)}
    (running : state.phase run = .running job (.call op next)) : state.pending run = some op := by
  unfold State.pending
  rw [running]

theorem State.running_of_pending {state : M.State} {run : M.Run} {op : sig.Op}
    (pending : state.pending run = some op) :
    Exists fun job => Exists fun next => state.phase run = .running job (.call op next) := by
  unfold State.pending at pending
  split at pending
  · cases pending
    exact ⟨_, _, ‹_›⟩
  · cases pending

/-- One step of the whole system, or `none` when the action is not enabled. -/
def step [DecidableEq M.Run] (state : M.State) : M.Action -> Option M.State
  | .start run job =>
      match state.phase run with
      | .absent =>
          (M.start job run state.shared).map (fun shared =>
            ⟨shared, state.setPhase run (.running job (M.program run job))⟩)
      | _ => none
  | .perform run choice =>
      match state.phase run with
      | .running job (.call op next) =>
          (M.exec run op choice state.shared).map (fun outcome =>
            ⟨outcome.1, state.setPhase run (.running job (next outcome.2))⟩)
      | _ => none
  | .crash run =>
      match state.phase run with
      | .running _ (.call _ _) => some ⟨M.crash run state.shared, state.setPhase run .crashed⟩
      | _ => none
  | .env event => (M.env event state.shared).map (fun shared => ⟨shared, state.phase⟩)

/-- A run that performs a step executes the operation it was about to. -/
theorem exec_of_pending [DecidableEq M.Run] {state next : M.State} {run : M.Run} {op : sig.Op}
    {choice : M.Choice} (pending : state.pending run = some op)
    (taken : step state (.perform run choice) = some next) :
    Exists fun answer => M.exec run op choice state.shared = some (next.shared, answer) := by
  rcases State.running_of_pending pending with ⟨job, rest, running⟩
  simp only [step, running] at taken
  rcases Option.map_eq_some_iff.mp taken with ⟨⟨shared, answer⟩, executed, rfl⟩
  exact ⟨answer, executed⟩

theorem step_of_exec [DecidableEq M.Run] {state : M.State} {run : M.Run} {job : M.Job} {op : sig.Op}
    {next : Except sig.Error (sig.Answer op) -> Prog sig (M.Result job)} {choice : M.Choice} {after : M.Shared}
    {answer : Except sig.Error (sig.Answer op)} (running : state.phase run = .running job (.call op next))
    (executed : M.exec run op choice state.shared = some (after, answer)) :
    step state (.perform run choice) = some ⟨after, state.setPhase run (.running job (next answer))⟩ := by
  simp only [step, running, executed, Option.map_some]

/-- Execute a schedule from a state; `none` when some action is not enabled. -/
def runFrom [DecidableEq M.Run] (state : M.State) : List M.Action -> Option M.State
  | [] => some state
  | action :: rest => (step state action).bind (fun next => runFrom next rest)

/-- The states reached from `first` by steps that the relation `allowed`
admits.  The relation carries assumptions on a run, such as a clock that does
not go backwards; `fun _ _ => True` admits every run. -/
inductive Path [DecidableEq M.Run] (allowed : M.Shared -> M.Shared -> Prop) (first : M.State) :
    M.State -> Prop where
  | refl : Path allowed first first
  | step {state next : M.State} (action : M.Action) (earlier : Path allowed first state)
      (taken : step state action = some next) (admitted : allowed state.shared next.shared) :
      Path allowed first next

/-- Nothing has been started yet. -/
def fresh (shared : M.Shared) : M.State := ⟨shared, fun _ => .absent⟩

/-- The states of the runs that begin with nothing started. -/
abbrev Reachable [DecidableEq M.Run] (allowed : M.Shared -> M.Shared -> Prop) (initial : M.Shared)
    (state : M.State) : Prop :=
  Path allowed (fresh initial) state

theorem Path.trans [DecidableEq M.Run] {allowed : M.Shared -> M.Shared -> Prop}
    {first middle last : M.State} (before : Path allowed first middle)
    (after : Path allowed middle last) : Path allowed first last := by
  induction after with
  | refl => exact before
  | step action _ taken admitted inductionHypothesis =>
      exact inductionHypothesis.step action taken admitted

/-- Weaker assumptions admit every run that stronger ones admit. -/
theorem Path.mono [DecidableEq M.Run] {allowed weaker : M.Shared -> M.Shared -> Prop}
    (implied : forall before after, allowed before after -> weaker before after) {first last : M.State}
    (path : Path allowed first last) : Path weaker first last := by
  induction path with
  | refl => exact .refl
  | step action _ taken admitted inductionHypothesis =>
      exact inductionHypothesis.step action taken (implied _ _ admitted)

/-- Every schedule that executes is a path when all steps are admitted. -/
theorem Path.of_runFrom [DecidableEq M.Run] {first last : M.State} (actions : List M.Action)
    (executed : runFrom first actions = some last) : Path (fun _ _ => True) first last := by
  induction actions generalizing first with
  | nil =>
      cases executed
      exact .refl
  | cons action rest inductionHypothesis =>
      rcases Option.bind_eq_some_iff.mp executed with ⟨next, taken, remaining⟩
      exact (Path.refl.step action taken trivial).trans (inductionHypothesis remaining)

/-- Execute a schedule whose steps pass a check. -/
def runChecked [DecidableEq M.Run] (check : M.Shared -> M.Shared -> Bool) (state : M.State) :
    List M.Action -> Option M.State
  | [] => some state
  | action :: rest =>
      (step state action).bind (fun next =>
        if check state.shared next.shared then runChecked check next rest else none)

/-- A schedule that passes a check for the assumption is an admitted path. -/
theorem Path.of_runChecked [DecidableEq M.Run] {allowed : M.Shared -> M.Shared -> Prop}
    {check : M.Shared -> M.Shared -> Bool}
    (sound : forall before after, check before after = true -> allowed before after) {first last : M.State}
    (actions : List M.Action) (executed : runChecked check first actions = some last) :
    Path allowed first last := by
  induction actions generalizing first with
  | nil =>
      cases executed
      exact .refl
  | cons action rest inductionHypothesis =>
      rcases Option.bind_eq_some_iff.mp executed with ⟨next, taken, remaining⟩
      split at remaining
      · next passed =>
          exact (Path.refl.step action taken (sound _ _ passed)).trans (inductionHypothesis remaining)
      · cases remaining

/-- What one step can be: a start of an absent run, one operation of a running
program, a crash before an operation, or an event of the environment. -/
theorem step_cases [DecidableEq M.Run] {state next : M.State} {action : M.Action}
    (taken : step state action = some next) :
    (exists run job shared, state.phase run = .absent ∧ M.start job run state.shared = some shared ∧
      next = ⟨shared, state.setPhase run (.running job (M.program run job))⟩) ∨
    (exists run job op rest choice outcome, state.phase run = .running job (.call op rest) ∧
      M.exec run op choice state.shared = some outcome ∧
      next = ⟨outcome.1, state.setPhase run (.running job (rest outcome.2))⟩) ∨
    (exists run job op rest, state.phase run = .running job (.call op rest) ∧
      next = ⟨M.crash run state.shared, state.setPhase run .crashed⟩) ∨
    (exists event shared, M.env event state.shared = some shared ∧ next = ⟨shared, state.phase⟩) := by
  cases action with
  | start run job =>
      simp only [step] at taken
      split at taken
      · rcases Option.map_eq_some_iff.mp taken with ⟨shared, started, rfl⟩
        exact .inl ⟨run, job, shared, ‹_›, started, rfl⟩
      · cases taken
  | perform run choice =>
      simp only [step] at taken
      split at taken
      · rcases Option.map_eq_some_iff.mp taken with ⟨outcome, executed, rfl⟩
        exact .inr (.inl ⟨run, _, _, _, choice, outcome, ‹_›, executed, rfl⟩)
      · cases taken
  | crash run =>
      simp only [step] at taken
      split at taken
      · cases taken
        exact .inr (.inr (.inl ⟨run, _, _, _, ‹_›, rfl⟩))
      · cases taken
  | env event =>
      rcases Option.map_eq_some_iff.mp taken with ⟨shared, happened, rfl⟩
      exact .inr (.inr (.inr ⟨event, shared, happened, rfl⟩))

/-- Only finitely many runs have been started. -/
theorem Path.started_listed [DecidableEq M.Run] {allowed : M.Shared -> M.Shared -> Prop} {shared : M.Shared}
    {last : M.State} (reached : Reachable allowed shared last) :
    Exists fun runs : List M.Run => forall run, run ∉ runs -> last.phase run = .absent := by
  induction reached with
  | refl => exact ⟨[], fun _ _ => rfl⟩
  | @step state next action _ taken _ inductionHypothesis =>
      rcases inductionHypothesis with ⟨runs, absent⟩
      have kept : forall (run : M.Run) (phase : M.Phase), forall other, other ∉ run :: runs ->
          state.setPhase run phase other = .absent := by
        intro run phase other unlisted
        have different : other ≠ run := by
          rintro rfl
          exact unlisted List.mem_cons_self
        rw [State.setPhase_of_ne state phase different]
        exact absent other (fun listed => unlisted (List.mem_cons_of_mem run listed))
      rcases step_cases taken with
        ⟨run, job, shared, _, started, rfl⟩ | ⟨run, job, op, rest, choice, outcome, _, executed, rfl⟩ |
        ⟨run, job, op, rest, _, rfl⟩ | ⟨event, shared, happened, rfl⟩
      · exact ⟨run :: runs, kept run _⟩
      · exact ⟨run :: runs, kept run _⟩
      · exact ⟨run :: runs, kept run _⟩
      · exact ⟨runs, absent⟩

/-- A crashed run takes no further step. -/
theorem crashed_step [DecidableEq M.Run] {state next : M.State} {action : M.Action} {run : M.Run}
    (taken : step state action = some next) (crashed : state.phase run = .crashed) :
    next.phase run = .crashed := by
  have different : forall {other : M.Run} {phase}, state.phase other = phase -> phase ≠ .crashed -> run ≠ other := by
    rintro other phase same elsewhere rfl
    exact elsewhere (same.symm.trans crashed)
  rcases step_cases taken with
    ⟨other, job, shared, absent, started, rfl⟩ | ⟨other, job, op, rest, choice, outcome, calling, executed, rfl⟩ |
    ⟨other, job, op, rest, calling, rfl⟩ | ⟨event, shared, happened, rfl⟩
  · exact (State.setPhase_of_ne state _ (different absent (by simp))).trans crashed
  · exact (State.setPhase_of_ne state _ (different calling (by simp))).trans crashed
  · exact (State.setPhase_of_ne state _ (different calling (by simp))).trans crashed
  · exact crashed

/-- A run that has ended takes no further step. -/
theorem ended_step [DecidableEq M.Run] {state next : M.State} {action : M.Action} {run : M.Run} {job : M.Job}
    {rest : Prog sig (M.Result job)} (taken : step state action = some next)
    (running : state.phase run = .running job rest) (ended : forall op after, rest ≠ .call op after) :
    next.phase run = .running job rest := by
  have different : forall {other : M.Run} {phase}, state.phase other = phase -> phase ≠ .running job rest ->
      run ≠ other := by
    rintro other phase same elsewhere rfl
    exact elsewhere (same.symm.trans running)
  have calls : forall {job' : M.Job} {op after}, (Phase.running job' (.call op after) : M.Phase) ≠ .running job rest := by
    intro job' op after same
    cases same
    exact ended op after rfl
  rcases step_cases taken with
    ⟨other, job', shared, absent, started, rfl⟩ | ⟨other, job', op, after, choice, outcome, calling, executed, rfl⟩ |
    ⟨other, job', op, after, calling, rfl⟩ | ⟨event, shared, happened, rfl⟩
  · exact (State.setPhase_of_ne state _ (different absent (by simp))).trans running
  · exact (State.setPhase_of_ne state _ (different calling calls)).trans running
  · exact (State.setPhase_of_ne state _ (different calling calls)).trans running
  · exact running

theorem Path.ended_stays [DecidableEq M.Run] {allowed : M.Shared -> M.Shared -> Prop} {first last : M.State}
    (path : Path allowed first last) {run : M.Run} {job : M.Job} {rest : Prog sig (M.Result job)}
    (running : first.phase run = .running job rest) (ended : forall op after, rest ≠ .call op after) :
    last.phase run = .running job rest := by
  induction path with
  | refl => exact running
  | step action _ taken _ inductionHypothesis => exact ended_step taken inductionHypothesis ended

/-- A running run was running before the step too, unless the step has started it. -/
theorem running_before [DecidableEq M.Run] {state next : M.State} {action : M.Action} {run : M.Run} {job : M.Job}
    {rest : Prog sig (M.Result job)} (taken : step state action = some next)
    (running : next.phase run = .running job rest) :
    (Exists fun earlier => state.phase run = .running job earlier) ∨
      exists shared, state.phase run = .absent ∧ M.start job run state.shared = some shared ∧
        next = ⟨shared, state.setPhase run (.running job (M.program run job))⟩ := by
  rcases step_cases taken with
    ⟨other, job', shared, absent, started, rfl⟩ | ⟨other, job', op, after, choice, outcome, calling, executed, rfl⟩ |
    ⟨other, job', op, after, calling, rfl⟩ | ⟨event, shared, happened, rfl⟩
  · by_cases same : run = other
    · subst same
      cases (State.setPhase_self state run _).symm.trans running
      exact .inr ⟨shared, absent, started, rfl⟩
    · exact .inl ⟨rest, (State.setPhase_of_ne state _ same).symm.trans running⟩
  · by_cases same : run = other
    · subst same
      cases (State.setPhase_self state run _).symm.trans running
      exact .inl ⟨.call op after, calling⟩
    · exact .inl ⟨rest, (State.setPhase_of_ne state _ same).symm.trans running⟩
  · by_cases same : run = other
    · subst same
      cases (State.setPhase_self state run _).symm.trans running
    · exact .inl ⟨rest, (State.setPhase_of_ne state _ same).symm.trans running⟩
  · exact .inl ⟨rest, running⟩

/-- The step of a path that has started a run. -/
structure Starts [DecidableEq M.Run] (allowed : M.Shared -> M.Shared -> Prop) (first last : M.State) (run : M.Run)
    (job : M.Job) (before after : M.State) : Prop where
  earlier : Path allowed first before
  absent : before.phase run = .absent
  started : M.start job run before.shared = some after.shared
  admitted : allowed before.shared after.shared
  taken : step before (.start run job) = some after
  running : after.phase run = .running job (M.program run job)
  later : Path allowed after last

/-- A run that was absent and is running was started in between. -/
theorem Path.started [DecidableEq M.Run] {allowed : M.Shared -> M.Shared -> Prop} {first last : M.State}
    (path : Path allowed first last) {run : M.Run} {job : M.Job} {rest : Prog sig (M.Result job)}
    (absent : first.phase run = .absent) (running : last.phase run = .running job rest) :
    exists before after, Starts allowed first last run job before after := by
  induction path generalizing rest with
  | refl =>
      rw [absent] at running
      cases running
  | @step state next action earlier taken admitted inductionHypothesis =>
      rcases running_before taken running with ⟨rest', running'⟩ | ⟨shared, absent', started, rfl⟩
      · rcases inductionHypothesis running' with ⟨before, after, starts⟩
        exact ⟨before, after, { starts with later := starts.later.step action taken admitted }⟩
      · refine ⟨state, _, earlier, absent', started, admitted, ?_, State.setPhase_self state run _, .refl⟩
        simp only [Machine.step, absent', started, Option.map_some]

/-- The step of a path with which a run performs the operation it was about to. -/
structure Performs [DecidableEq M.Run] (allowed : M.Shared -> M.Shared -> Prop) (first last : M.State) (run : M.Run)
    (job : M.Job) (op : sig.Op) (next : Except sig.Error (sig.Answer op) -> Prog sig (M.Result job))
    (before after : M.State) (answer : Except sig.Error (sig.Answer op)) : Prop where
  earlier : Path allowed first before
  waiting : before.phase run = .running job (.call op next)
  executed : Exists fun choice => M.exec run op choice before.shared = some (after.shared, answer)
  taken : Path allowed before after
  running : after.phase run = .running job (next answer)
  later : Path allowed after last

end Machine
end Concurrency
end Payments
