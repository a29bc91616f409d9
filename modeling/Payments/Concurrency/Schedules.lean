import Mathlib.Data.List.Induction
import Payments.Concurrency.Machine

namespace Payments
namespace Concurrency
namespace Machine

/-!
# Schedules

A path forgets the actions that have led to its state.  A property that
mentions what has been started is therefore about a schedule, and it is proved
by an induction that appends one action at a time.
-/

variable {sig : Signature} {M : Machine sig} [DecidableEq M.Run]

/-- The last action of a schedule executes in the state that the others have led to. -/
theorem runFrom_concat {first last : M.State} (actions : List M.Action) (action : M.Action)
    (executed : runFrom first (actions ++ [action]) = some last) :
    Exists fun state => runFrom first actions = some state ∧ step state action = some last := by
  induction actions generalizing first with
  | nil =>
      rcases Option.bind_eq_some_iff.mp executed with ⟨next, taken, done⟩
      cases done
      exact ⟨first, rfl, taken⟩
  | cons head rest inductionHypothesis =>
      rcases Option.bind_eq_some_iff.mp executed with ⟨next, taken, remaining⟩
      rcases inductionHypothesis remaining with ⟨state, before, final⟩
      exact ⟨state, Option.bind_eq_some_iff.mpr ⟨next, taken, before⟩, final⟩

/-- A schedule goes on with an action that the state it leads to admits. -/
theorem runFrom_append {first state last : M.State} {actions : List M.Action} {action : M.Action}
    (executed : runFrom first actions = some state) (taken : step state action = some last) :
    runFrom first (actions ++ [action]) = some last := by
  induction actions generalizing first with
  | nil =>
      cases executed
      exact Option.bind_eq_some_iff.mpr ⟨last, taken, rfl⟩
  | cons head rest inductionHypothesis =>
      rcases Option.bind_eq_some_iff.mp executed with ⟨next, taken', remaining⟩
      exact Option.bind_eq_some_iff.mpr ⟨next, taken', inductionHypothesis remaining⟩

/-- Every path is that of a schedule. -/
theorem Path.runFrom {first last : M.State} (path : Path (fun _ _ => True) first last) :
    Exists fun actions => runFrom first actions = some last := by
  induction path with
  | refl => exact ⟨[], rfl⟩
  | step action _ taken _ inductionHypothesis =>
      rcases inductionHypothesis with ⟨actions, executed⟩
      exact ⟨actions ++ [action], runFrom_append executed taken⟩

/-- What holds of the empty schedule and is kept by every action holds of every
schedule and the state it leads to. -/
theorem runFrom_induction {holds : List M.Action -> M.State -> Prop} {first : M.State} (initially : holds [] first)
    (steps : forall actions state action next, runFrom first actions = some state -> holds actions state ->
      step state action = some next -> holds (actions ++ [action]) next)
    {actions : List M.Action} {last : M.State} (executed : runFrom first actions = some last) :
    holds actions last := by
  induction actions using List.reverseRecOn generalizing last with
  | nil =>
      cases executed
      exact initially
  | append_singleton actions action inductionHypothesis =>
      rcases runFrom_concat actions action executed with ⟨state, before, taken⟩
      exact steps actions state action last before (inductionHypothesis before) taken

/-- A run that runs after a step did so before, or the step has started it. -/
theorem started_by {state next : M.State} {action : M.Action} (taken : step state action = some next) {run : M.Run}
    {job : M.Job} {rest : Prog sig (M.Result job)} (running : next.phase run = .running job rest) :
    (Exists fun earlier => state.phase run = .running job earlier) ∨ action = .start run job := by
  rcases running_before taken running with before | ⟨shared, absent, _, _⟩
  · exact .inl before
  · cases action with
    | start other job' =>
        simp only [step] at taken
        split at taken
        · rcases Option.map_eq_some_iff.mp taken with ⟨_, _, rfl⟩
          by_cases same : run = other
          · subst same
            cases (State.setPhase_self state run _).symm.trans running
            exact .inr rfl
          · exact .inl ⟨rest, (State.setPhase_of_ne state _ same).symm.trans running⟩
        · cases taken
    | perform other choice =>
        simp only [step] at taken
        split at taken
        · next calling =>
            rcases Option.map_eq_some_iff.mp taken with ⟨_, _, rfl⟩
            have different : run ≠ other := by
              rintro rfl
              cases absent.symm.trans calling
            exact .inl ⟨rest, (State.setPhase_of_ne state _ different).symm.trans running⟩
        · cases taken
    | crash other =>
        simp only [step] at taken
        split at taken
        · next calling =>
            cases taken
            have different : run ≠ other := by
              rintro rfl
              cases absent.symm.trans calling
            exact .inl ⟨rest, (State.setPhase_of_ne state _ different).symm.trans running⟩
        · cases taken
    | env event =>
        rcases Option.map_eq_some_iff.mp taken with ⟨_, _, rfl⟩
        exact .inl ⟨rest, running⟩

/-- Every run that runs has been started by the schedule. -/
theorem started_of_running {shared : M.Shared} {actions : List M.Action} {last : M.State}
    (executed : runFrom (fresh shared) actions = some last) {run : M.Run} {job : M.Job}
    {rest : Prog sig (M.Result job)} (running : last.phase run = .running job rest) : .start run job ∈ actions := by
  refine @runFrom_induction sig M _ (fun actions state => forall rest, state.phase run = .running job rest ->
    .start run job ∈ actions) (fresh shared) (fun rest impossible => by cases impossible) ?_ actions last executed rest
    running
  intro actions state action next _ inductionHypothesis taken rest running
  rcases started_by taken running with ⟨earlier, before⟩ | same
  · exact List.mem_append_left _ (inductionHypothesis earlier before)
  · exact List.mem_append_right _ (List.mem_singleton.mpr same.symm)

/-- Only a run that is absent can be started. -/
theorem absent_of_start {state next : M.State} {run : M.Run} {job : M.Job}
    (taken : step state (.start run job) = some next) : state.phase run = .absent := by
  simp only [step] at taken
  split at taken
  · assumption
  · cases taken

/-- Giving a phase to some run makes no run absent. -/
theorem State.absent_of_setPhase {state : M.State} {run other : M.Run} {phase : M.Phase} (present : phase ≠ .absent)
    (absent : state.setPhase other phase run = .absent) : state.phase run = .absent := by
  by_cases same : run = other
  · subst same
    exact absurd ((State.setPhase_self state run phase).symm.trans absent) present
  · exact (State.setPhase_of_ne state phase same).symm.trans absent

/-- What is absent after a step was absent before, and the step has not started it. -/
theorem absent_before {state next : M.State} {action : M.Action} (taken : step state action = some next) {run : M.Run}
    (absent : next.phase run = .absent) : state.phase run = .absent ∧ forall job, action ≠ .start run job := by
  have unstarted : state.phase run = .absent := by
    rcases step_cases taken with
      ⟨other, job, shared, _, _, rfl⟩ | ⟨other, job, op, rest, choice, outcome, _, _, rfl⟩ |
      ⟨other, job, op, rest, _, rfl⟩ | ⟨event, shared, _, rfl⟩
    · exact State.absent_of_setPhase (by simp) absent
    · exact State.absent_of_setPhase (by simp) absent
    · exact State.absent_of_setPhase (by simp) absent
    · exact absent
  refine ⟨unstarted, ?_⟩
  rintro job rfl
  simp only [step, unstarted] at taken
  rcases Option.map_eq_some_iff.mp taken with ⟨_, _, rfl⟩
  cases (State.setPhase_self state run _).symm.trans absent

/-- A schedule starts a run once. -/
theorem started_once {shared : M.Shared} {actions : List M.Action} {last : M.State}
    (executed : runFrom (fresh shared) actions = some last) {run : M.Run} {job job' : M.Job}
    (one : .start run job ∈ actions) (two : .start run job' ∈ actions) : job = job' := by
  have once : (forall job, .start run job ∈ actions -> last.phase run ≠ .absent) ∧
      forall job job', .start run job ∈ actions -> .start run job' ∈ actions -> job = job' := by
    refine @runFrom_induction sig M _ (fun actions state =>
      (forall job, .start run job ∈ actions -> state.phase run ≠ .absent) ∧
        forall job job', .start run job ∈ actions -> .start run job' ∈ actions -> job = job') (fresh shared)
      ⟨fun _ listed => (by cases listed), fun _ _ listed => (by cases listed)⟩ ?_ actions last executed
    rintro actions state action next _ ⟨present, unique⟩ taken
    refine ⟨fun job listed absent => ?_, fun job job' one two => ?_⟩
    · rcases absent_before taken absent with ⟨before, unstarted⟩
      rcases List.mem_append.mp listed with earlier | last
      · exact present job earlier before
      · exact unstarted job (List.mem_singleton.mp last).symm
    · rcases List.mem_append.mp one with earlier | last
      · rcases List.mem_append.mp two with earlier' | last'
        · exact unique job job' earlier earlier'
        · cases List.mem_singleton.mp last'
          exact absurd (absent_of_start taken) (present job earlier)
      · cases List.mem_singleton.mp last
        rcases List.mem_append.mp two with earlier' | last'
        · exact absurd (absent_of_start taken) (present job' earlier')
        · cases List.mem_singleton.mp last'
          rfl
  exact once.2 job job' one two

/-- The rest of a run calls only what its program calls. -/
theorem Path.only_calls {allowed : M.Shared -> M.Shared -> Prop} {shared : M.Shared} {last : M.State}
    (reached : Reachable allowed shared last) {run : M.Run} {job : M.Job} {calls : sig.Op -> Prop}
    (program : (M.program run job).OnlyCalls calls) {rest : Prog sig (M.Result job)}
    (running : last.phase run = .running job rest) : rest.OnlyCalls calls := by
  induction reached generalizing rest with
  | refl => cases running
  | @step state next action _ taken _ inductionHypothesis =>
      rcases step_cases taken with
        ⟨other, job', shared', _, _, rfl⟩ | ⟨other, job', op, after, choice, outcome, calling, _, rfl⟩ |
        ⟨other, job', op, after, _, rfl⟩ | ⟨event, shared', _, rfl⟩
      · by_cases same : run = other
        · subst same
          cases (State.setPhase_self state run _).symm.trans running
          exact program
        · exact inductionHypothesis ((State.setPhase_of_ne state _ same).symm.trans running)
      · by_cases same : run = other
        · subst same
          cases (State.setPhase_self state run _).symm.trans running
          exact (inductionHypothesis calling).2 outcome.2
        · exact inductionHypothesis ((State.setPhase_of_ne state _ same).symm.trans running)
      · by_cases same : run = other
        · subst same
          cases (State.setPhase_self state run _).symm.trans running
        · exact inductionHypothesis ((State.setPhase_of_ne state _ same).symm.trans running)
      · exact inductionHypothesis running

end Machine
end Concurrency
end Payments
